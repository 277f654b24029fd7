/-!
Finite maps from text to values, with their keys in order.

The entries of a `Dict` are a list whose keys strictly increase by code points, so two maps with
the same bindings are equal. `Entries` holds the operations on the bare lists, for types that nest
such lists in themselves; `Dict` carries the order as a field.
-/

namespace Gatehouse

/-- Keys with values. -/
abbrev Entries (α : Type) := List (String × α)

namespace Entries

variable {α : Type}

/-- The keys strictly increase. -/
def Sorted (entries : Entries α) : Prop :=
  entries.Pairwise fun a b => a.1 < b.1

/-- Bind a key to a value, in place of what it was bound to. -/
def insert (key : String) (value : α) : Entries α → Entries α
  | [] => [(key, value)]
  | (k, v) :: rest =>
    if key < k then (key, value) :: (k, v) :: rest
    else if key = k then (key, value) :: rest
    else (k, v) :: insert key value rest

/-- What a key is bound to. -/
def get? (key : String) : Entries α → Option α
  | [] => none
  | (k, v) :: rest => if key = k then some v else get? key rest

/-- Remove the binding of a key. -/
def erase (key : String) (entries : Entries α) : Entries α :=
  entries.filter fun e => e.1 ≠ key

/-- Bind one key after another; of two bindings of one key the later one stays. -/
def ofList (bindings : List (String × α)) : Entries α :=
  bindings.foldl (fun entries e => insert e.1 e.2 entries) []

theorem mem_insert {key : String} {value : α} {entries : Entries α} {e : String × α}
    (h : e ∈ insert key value entries) : e = (key, value) ∨ e ∈ entries := by
  induction entries with
  | nil => simpa [insert] using h
  | cons first rest ih =>
    obtain ⟨k, v⟩ := first
    rw [insert] at h
    split at h
    · simpa using h
    · split at h
      · simp only [List.mem_cons] at h ⊢
        grind
      · simp only [List.mem_cons] at h ⊢
        rcases h with rfl | h
        · exact .inr (.inl rfl)
        · grind

theorem sorted_insert (key : String) (value : α) {entries : Entries α} (h : Sorted entries) :
    Sorted (insert key value entries) := by
  induction entries with
  | nil => simp [insert, Sorted]
  | cons first rest ih =>
    obtain ⟨k, v⟩ := first
    have below : ∀ e ∈ rest, k < e.1 := fun e he => List.rel_of_pairwise_cons h he
    rw [insert]
    split
    · rename_i lt
      refine List.Pairwise.cons (fun e he => ?_) h
      rcases List.mem_cons.mp he with rfl | he
      · exact lt
      · exact String.lt_trans lt (below e he)
    · split
      · rename_i eq
        subst eq
        exact List.Pairwise.cons below (List.Pairwise.of_cons h)
      · rename_i notLt ne
        refine List.Pairwise.cons (fun e he => ?_) (ih (List.Pairwise.of_cons h))
        rcases mem_insert he with rfl | he
        · exact Std.lt_of_le_of_ne (Std.not_lt.mp notLt) (Ne.symm ne)
        · exact below e he

theorem get?_insert (key other : String) (value : α) (entries : Entries α) :
    get? other (insert key value entries) =
      if other = key then some value else get? other entries := by
  induction entries with
  | nil => simp [insert, get?]
  | cons first rest ih =>
    obtain ⟨k, v⟩ := first
    rw [insert]
    split
    · simp [get?]
    · split
      · rename_i eq
        subst eq
        simp only [get?]
        split <;> rfl
      · rename_i ne
        simp only [get?, ih]
        by_cases hk : other = k
        · subst hk
          simp [Ne.symm ne]
        · simp [hk]

theorem sorted_erase (key : String) {entries : Entries α} (h : Sorted entries) :
    Sorted (erase key entries) :=
  List.Pairwise.filter _ h

theorem sorted_ofList (bindings : List (String × α)) : Sorted (ofList bindings) := by
  suffices ∀ entries : Entries α, Sorted entries →
      Sorted (bindings.foldl (fun entries e => insert e.1 e.2 entries) entries) from
    this [] List.Pairwise.nil
  induction bindings with
  | nil => exact fun _ h => h
  | cons e rest ih => exact fun entries h => ih _ (sorted_insert e.1 e.2 h)

end Entries

/-- A finite map from text. -/
structure Dict (α : Type) where
  entries : Entries α
  sorted : entries.Sorted

namespace Dict

variable {α : Type}

theorem ext {a b : Dict α} (h : a.entries = b.entries) : a = b := by
  cases a
  cases b
  cases h
  rfl

instance [DecidableEq α] : DecidableEq (Dict α) := fun a b =>
  if h : a.entries = b.entries then isTrue (ext h) else isFalse fun e => h (e ▸ rfl)

instance [Repr α] : Repr (Dict α) := ⟨fun d prec => reprPrec d.entries prec⟩

def empty : Dict α := ⟨[], List.Pairwise.nil⟩

instance : EmptyCollection (Dict α) := ⟨empty⟩

instance : Inhabited (Dict α) := ⟨empty⟩

def insert (d : Dict α) (key : String) (value : α) : Dict α :=
  ⟨d.entries.insert key value, Entries.sorted_insert key value d.sorted⟩

def erase (d : Dict α) (key : String) : Dict α :=
  ⟨d.entries.erase key, Entries.sorted_erase key d.sorted⟩

def get? (d : Dict α) (key : String) : Option α :=
  d.entries.get? key

def contains (d : Dict α) (key : String) : Bool :=
  (d.get? key).isSome

def size (d : Dict α) : Nat :=
  d.entries.length

def isEmpty (d : Dict α) : Bool :=
  d.entries.isEmpty

def keys (d : Dict α) : List String :=
  d.entries.map (·.1)

def ofList (bindings : List (String × α)) : Dict α :=
  ⟨Entries.ofList bindings, Entries.sorted_ofList bindings⟩

/-- Keep the bindings that satisfy a test. -/
def filter (d : Dict α) (p : String → α → Bool) : Dict α :=
  ⟨d.entries.filter fun e => p e.1 e.2, List.Pairwise.filter _ d.sorted⟩

/-- The bindings of both; where a key is bound in both, that of the second. -/
def merge (d other : Dict α) : Dict α :=
  other.entries.foldl (fun acc e => acc.insert e.1 e.2) d

theorem get?_insert (d : Dict α) (key other : String) (value : α) :
    (d.insert key value).get? other = if other = key then some value else d.get? other :=
  Entries.get?_insert key other value d.entries

@[simp] theorem get?_empty (key : String) : (∅ : Dict α).get? key = none := rfl

end Dict

end Gatehouse
