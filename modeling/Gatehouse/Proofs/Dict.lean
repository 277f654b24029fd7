import Gatehouse.Dict
import Mathlib.Data.List.Induction

/-!
What finite maps hold.

As the keys of a map strictly increase, a map holds a binding exactly if it is what its key is bound
to. Erasing and filtering are followed through lookups on the strength of that. Two maps with the
same lookups are equal, so that the bindings of a map give it again in whatever order they are
inserted.
-/

namespace Gatehouse

namespace Entries

variable {α : Type} {entries : Entries α} {key : String} {value : α}

theorem mem_of_get?_eq_some (found : get? key entries = some value) :
    (key, value) ∈ entries := by
  induction entries with
  | nil => cases found
  | cons first rest ih =>
    obtain ⟨other, held⟩ := first
    rw [get?] at found
    split at found
    · rename_i same
      cases found
      rw [same]
      exact List.mem_cons_self
    · exact List.mem_cons_of_mem _ (ih found)

theorem get?_eq_some_of_mem (sorted : Sorted entries) (member : (key, value) ∈ entries) :
    get? key entries = some value := by
  induction entries with
  | nil => cases member
  | cons first rest ih =>
    obtain ⟨other, held⟩ := first
    rw [get?]
    rcases List.mem_cons.mp member with same | later
    · cases same
      rw [if_pos rfl]
    · have below : other < key := List.rel_of_pairwise_cons sorted later
      have different : key ≠ other := by
        intro same
        rw [same] at below
        exact String.lt_irrefl other below
      rw [if_neg different]
      exact ih (List.Pairwise.of_cons sorted) later

/-- To bind a key again leaves the keys as they are. -/
theorem map_fst_insert (sorted : Sorted entries) {held : α} (found : get? key entries = some held) :
    (insert key value entries).map Prod.fst = entries.map Prod.fst := by
  induction entries with
  | nil => cases found
  | cons first rest ih =>
    obtain ⟨other, current⟩ := first
    rw [get?] at found
    rw [insert]
    split at found
    · rename_i same
      rw [if_neg (same ▸ String.lt_irrefl other), if_pos same, same]
      rfl
    · rename_i different
      have below : other < key := List.rel_of_pairwise_cons sorted (mem_of_get?_eq_some found)
      rw [if_neg (String.lt_asymm below), if_neg different, List.map_cons, List.map_cons,
        ih (List.Pairwise.of_cons sorted) found]

theorem get?_eq_none_of_below (below : ∀ e ∈ entries, key < e.1) : get? key entries = none := by
  induction entries with
  | nil => rfl
  | cons first rest ih =>
    obtain ⟨other, held⟩ := first
    have above : key < other := below (other, held) List.mem_cons_self
    have different : key ≠ other := by
      intro same
      rw [same] at above
      exact String.lt_irrefl other above
    rw [get?, if_neg different]
    exact ih fun e member => below e (List.mem_cons_of_mem _ member)

/-- A key is bound once, so erasing it takes one entry away. -/
theorem length_erase (sorted : Sorted entries) (found : get? key entries = some value) :
    (erase key entries).length + 1 = entries.length := by
  induction entries with
  | nil => cases found
  | cons first rest ih =>
    obtain ⟨other, held⟩ := first
    rw [get?] at found
    rw [erase]
    split at found
    · rename_i same
      have others : ∀ e ∈ rest, decide (e.1 ≠ key) = true := by
        intro e member
        refine decide_eq_true fun again => ?_
        have below : other < e.1 := List.rel_of_pairwise_cons sorted member
        rw [again, same] at below
        exact String.lt_irrefl other below
      rw [List.filter_cons_of_neg (by simp only [same, ne_eq, not_true_eq_false, decide_false,
        Bool.false_eq_true, not_false_eq_true]), List.filter_eq_self.mpr others]
      rfl
    · rename_i different
      rw [List.filter_cons_of_pos (by exact decide_eq_true fun same => different same.symm),
        List.length_cons, List.length_cons]
      exact congrArg (· + 1) (ih (List.Pairwise.of_cons sorted) found)

/-- The first key of a map is its least one, so that maps with the same lookups begin alike. -/
theorem eq_of_get? {a b : Entries α} (sortedA : Sorted a) (sortedB : Sorted b)
    (same : ∀ key, get? key a = get? key b) : a = b := by
  induction a generalizing b with
  | nil =>
    cases b with
    | nil => rfl
    | cons first rest =>
      have lookup := same first.1
      rw [get?, get?, if_pos rfl] at lookup
      cases lookup
  | cons first rest ih =>
    cases b with
    | nil =>
      have lookup := same first.1
      rw [get?, get?, if_pos rfl] at lookup
      cases lookup
    | cons firstB restB =>
      obtain ⟨k, v⟩ := first
      obtain ⟨kB, vB⟩ := firstB
      have below : ∀ e ∈ rest, k < e.1 := fun e => List.rel_of_pairwise_cons sortedA
      have belowB : ∀ e ∈ restB, kB < e.1 := fun e => List.rel_of_pairwise_cons sortedB
      have sameKey : k = kB := by
        rcases Std.lt_trichotomy k kB with lt | eq | gt
        · have lookup := same k
          rw [get?, if_pos rfl, get?_eq_none_of_below] at lookup
          · cases lookup
          · intro e member
            rcases List.mem_cons.mp member with rfl | later
            · exact lt
            · exact String.lt_trans lt (belowB e later)
        · exact eq
        · have lookup := same kB
          rw [get?_eq_none_of_below, get?, if_pos rfl] at lookup
          · cases lookup
          · intro e member
            rcases List.mem_cons.mp member with rfl | later
            · exact gt
            · exact String.lt_trans gt (below e later)
      subst sameKey
      have lookup := same k
      rw [get?, get?, if_pos rfl, if_pos rfl] at lookup
      cases lookup
      rw [ih (List.Pairwise.of_cons sortedA) (List.Pairwise.of_cons sortedB)]
      intro key
      by_cases here : key = k
      · rw [here, get?_eq_none_of_below below, get?_eq_none_of_below belowB]
      · have elsewhere := same key
        rw [get?, get?, if_neg here, if_neg here] at elsewhere
        exact elsewhere

end Entries

namespace Dict

variable {α : Type}

theorem mem_entries_iff {d : Dict α} {key : String} {value : α} :
    (key, value) ∈ d.entries ↔ d.get? key = some value :=
  ⟨Entries.get?_eq_some_of_mem d.sorted, Entries.mem_of_get?_eq_some⟩

theorem get?_filter_eq_some_iff {d : Dict α} {p : String → α → Bool} {key : String} {value : α} :
    (d.filter p).get? key = some value ↔ d.get? key = some value ∧ p key value = true := by
  rw [← mem_entries_iff, ← mem_entries_iff]
  exact List.mem_filter

theorem get?_erase_eq_some_iff {d : Dict α} {key other : String} {value : α} :
    (d.erase key).get? other = some value ↔ d.get? other = some value ∧ other ≠ key := by
  rw [← mem_entries_iff, ← mem_entries_iff]
  refine Iff.trans List.mem_filter ?_
  simp only [ne_eq, decide_not, Bool.not_eq_eq_eq_not, Bool.not_true, decide_eq_false_iff_not]

theorem size_erase {d : Dict α} {key : String} {value : α} (found : d.get? key = some value) :
    (d.erase key).size + 1 = d.size :=
  Entries.length_erase d.sorted found

theorem get?_insert_eq_some_iff {d : Dict α} {key other : String} {value held : α} :
    (d.insert key value).get? other = some held ↔
      other = key ∧ held = value ∨ other ≠ key ∧ d.get? other = some held := by
  rw [get?_insert]
  split
  · rename_i same
    simp only [same, true_and, ne_eq, not_true_eq_false, false_and, or_false, Option.some.injEq]
    exact eq_comm
  · rename_i different
    simp only [different, false_and, ne_eq, not_false_eq_true, true_and, false_or]

theorem eq_of_get? {a b : Dict α} (same : ∀ key, a.get? key = b.get? key) : a = b :=
  Dict.ext (Entries.eq_of_get? a.sorted b.sorted same)

/-! ## Many bindings -/

/-- Bind one key after another. -/
def insertAll (d : Dict α) (bindings : List (String × α)) : Dict α :=
  bindings.foldl (fun d e => d.insert e.1 e.2) d

theorem get?_insertAll_of_notMem {d : Dict α} {bindings : List (String × α)} {key : String}
    (absent : ∀ e ∈ bindings, e.1 ≠ key) : (d.insertAll bindings).get? key = d.get? key := by
  induction bindings generalizing d with
  | nil => rfl
  | cons e rest ih =>
    have different : key ≠ e.1 := (absent e List.mem_cons_self).symm
    change ((d.insert e.1 e.2).insertAll rest).get? key = _
    rw [ih fun other member => absent other (List.mem_cons_of_mem _ member), get?_insert,
      if_neg different]

theorem get?_insertAll_of_mem {d : Dict α} {bindings : List (String × α)}
    (distinct : bindings.Pairwise fun a b => a.1 ≠ b.1) {key : String} {value : α}
    (member : (key, value) ∈ bindings) : (d.insertAll bindings).get? key = some value := by
  induction bindings generalizing d with
  | nil => cases member
  | cons e rest ih =>
    change ((d.insert e.1 e.2).insertAll rest).get? key = _
    rcases List.mem_cons.mp member with rfl | later
    · have absent : ∀ other ∈ rest, other.1 ≠ key := fun other there =>
        (List.rel_of_pairwise_cons distinct there).symm
      rw [get?_insertAll_of_notMem absent, get?_insert, if_pos rfl]
    · exact ih (List.Pairwise.of_cons distinct) later

theorem distinct_entries (d : Dict α) : d.entries.Pairwise fun a b => a.1 ≠ b.1 := by
  refine d.sorted.imp ?_
  intro a b lt same
  rw [same] at lt
  exact String.lt_irrefl b.1 lt

theorem nodup_keys (d : Dict α) : d.keys.Nodup :=
  List.pairwise_map.mpr d.distinct_entries

theorem mem_keys_iff {d : Dict α} {key : String} :
    key ∈ d.keys ↔ ∃ value, d.get? key = some value := by
  constructor
  · intro member
    obtain ⟨⟨_, value⟩, entry, rfl⟩ := List.mem_map.mp member
    exact ⟨value, mem_entries_iff.mp entry⟩
  · rintro ⟨value, bound⟩
    exact List.mem_map.mpr ⟨(key, value), mem_entries_iff.mpr bound, rfl⟩

theorem keys_insert {d : Dict α} {key : String} (bound : key ∈ d.keys) (value : α) :
    (d.insert key value).keys = d.keys := by
  obtain ⟨held, found⟩ := mem_keys_iff.mp bound
  exact Entries.map_fst_insert d.sorted found

/-- The bindings of a map, inserted in any order, give the map. -/
theorem insertAll_perm {d : Dict α} {bindings : List (String × α)}
    (perm : bindings.Perm d.entries) : (∅ : Dict α).insertAll bindings = d := by
  have distinct : bindings.Pairwise fun a b => a.1 ≠ b.1 :=
    perm.symm.pairwise d.distinct_entries Ne.symm
  refine eq_of_get? fun key => ?_
  cases found : d.get? key with
  | some value =>
    exact get?_insertAll_of_mem distinct (perm.mem_iff.mpr (mem_entries_iff.mpr found))
  | none =>
    rw [get?_insertAll_of_notMem, get?_empty]
    rintro ⟨other, value⟩ member rfl
    rw [mem_entries_iff.mp (perm.mem_iff.mp member)] at found
    cases found

theorem entries_insertAll (d : Dict α) (bindings : List (String × α)) :
    (d.insertAll bindings).entries =
      bindings.foldl (fun entries e => Entries.insert e.1 e.2 entries) d.entries := by
  induction bindings generalizing d with
  | nil => rfl
  | cons e rest ih => exact ih (d.insert e.1 e.2)

/-! ## Two maps -/

/-- A key is bound to what the second map binds it to, and else to what the first one does. -/
theorem get?_merge (d other : Dict α) (key : String) :
    (d.merge other).get? key = (other.get? key).or (d.get? key) := by
  change (d.insertAll other.entries).get? key = _
  cases found : other.get? key with
  | some value =>
    exact get?_insertAll_of_mem other.distinct_entries (mem_entries_iff.mpr found)
  | none =>
    rw [get?_insertAll_of_notMem, Option.none_or]
    rintro ⟨bound, value⟩ member rfl
    rw [mem_entries_iff.mp member] at found
    cases found

theorem merge_insert (d other : Dict α) (key : String) (value : α) :
    d.merge (other.insert key value) = (d.merge other).insert key value := by
  refine eq_of_get? fun asked => ?_
  rw [get?_merge, get?_insert, get?_insert, get?_merge]
  split
  · exact Option.some_or
  · rfl

end Dict

namespace Entries

variable {α : Type}

/-- Bindings in the order of their keys are the entries of their map. -/
theorem ofList_eq_self {entries : Entries α} (sorted : Sorted entries) :
    ofList entries = entries := by
  have all := Dict.entries_insertAll ∅ entries
  rw [Dict.insertAll_perm (d := ⟨entries, sorted⟩) (List.Perm.refl _)] at all
  exact all.symm

/-- The last binding of a key is what it is bound to. -/
theorem get?_ofList (key : String) (bindings : List (String × α)) :
    get? key (ofList bindings) = (bindings.reverse.find? fun e => key = e.1).map (·.2) := by
  induction bindings using List.reverseRecOn with
  | nil => rfl
  | append_singleton rest e ih =>
    rw [ofList, List.foldl_append, List.foldl_cons, List.foldl_nil, get?_insert,
      List.reverse_append, List.reverse_singleton, List.singleton_append, List.find?_cons]
    by_cases same : key = e.1
    · rw [if_pos same, decide_eq_true same]
      rfl
    · rw [if_neg same, decide_eq_false same]
      exact ih

end Entries

end Gatehouse
