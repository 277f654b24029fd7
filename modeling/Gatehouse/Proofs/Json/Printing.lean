import Gatehouse.Proofs.Dict
import Gatehouse.Proofs.Json.Reading

/-!
Printing what a JSON text stands for.

If all numbers of a text are integers, the compact text of the value that it stands for stands for
the same value (`Denotes.prints`). Its containers are nested no deeper than those of the first text,
and it takes at most twice as many bytes: of two members of one name one is left, strings are never
longer and integers as long as they were, but `-0` comes back as `-0.0`.
-/

namespace Gatehouse.Json

variable {admitted : Literal → Prop} {depth : Nat}

/-! ## Members of an object -/

theorem mem_addAll {seen members : List (String × Json)} {e : String × Json}
    (member : e ∈ addAll seen members) : e ∈ seen ∨ e ∈ members := by
  induction members generalizing seen with
  | nil => exact Or.inl member
  | cons m rest ih =>
    rcases ih member with early | late
    · rcases Entries.mem_insert early with rfl | before
      · exact Or.inr List.mem_cons_self
      · exact Or.inl before
    · exact Or.inr (List.mem_cons_of_mem _ late)

theorem mem_of_mem_ofList {members : List (String × Json)} {e : String × Json}
    (member : e ∈ Entries.ofList members) : e ∈ members := by
  have added : e ∈ addAll [] members := member
  exact (mem_addAll added).resolve_left List.not_mem_nil

/-- The sum of what the entries of a list count for. -/
def total {α : Type} (size : α → Nat) (entries : List α) : Nat :=
  entries.foldr (fun e rest => size e + rest) 0

theorem le_total {size : String × Json → Nat} {entries : List (String × Json)} {e : String × Json}
    (member : e ∈ entries) : size e ≤ total size entries := by
  induction entries with
  | nil => cases member
  | cons first rest ih =>
    change size e ≤ size first + total size rest
    rcases List.mem_cons.mp member with rfl | later
    · exact Nat.le_add_right _ _
    · exact Nat.le_trans (ih later) (Nat.le_add_left _ _)

theorem total_insert_le (size : String × Json → Nat) (name : String) (v : Json)
    (entries : List (String × Json)) :
    total size (Entries.insert name v entries) ≤ size (name, v) + total size entries := by
  induction entries with
  | nil => exact Nat.le_refl _
  | cons e rest ih =>
    obtain ⟨k, held⟩ := e
    rw [Entries.insert]
    split
    · exact Nat.le_refl _
    · split
      · change size (name, v) + total size rest ≤
          size (name, v) + (size (k, held) + total size rest)
        omega
      · change size (k, held) + total size (Entries.insert name v rest) ≤
          size (name, v) + (size (k, held) + total size rest)
        omega

/-- Where a member takes the place of another, no more is counted than for both. -/
theorem total_addAll_le (size : String × Json → Nat) (seen members : List (String × Json)) :
    total size (addAll seen members) ≤ total size seen + total size members := by
  induction members generalizing seen with
  | nil => exact Nat.le_refl _
  | cons m rest ih =>
    obtain ⟨name, v⟩ := m
    have inserted := total_insert_le size name v seen
    have others := ih (Entries.insert name v seen)
    change total size (addAll (Entries.insert name v seen) rest) ≤
      total size seen + (size (name, v) + total size rest)
    omega

theorem total_ofList_le (size : String × Json → Nat) (members : List (String × Json)) :
    total size (Entries.ofList members) ≤ total size members := by
  rw [← Nat.zero_add (total size members)]
  exact total_addAll_le size [] members

/-! ## What is printed stands for the value -/

theorem denotes_quoted (s : String) : Denotes admitted depth (quoted s) (.value (.str s)) := by
  have denotes : Denotes admitted depth (quoted s) (.value (.str (String.ofList s.toList))) :=
    .str (spells_flatMap_escape s.toList)
  rw [String.ofList_toList] at denotes
  exact denotes

theorem blank_nil : Blank [] :=
  nofun

theorem names_quoted (name : String) : Names (quoted name ++ [':']) name := by
  have names : Names ('"' :: (name.toList.flatMap escape ++ '"' :: ([] ++ ':' :: [])))
      (String.ofList name.toList) :=
    .quoted (spells_flatMap_escape name.toList) blank_nil blank_nil
  rw [String.ofList_toList] at names
  rw [quoted, List.cons_append, List.append_assoc]
  exact names

theorem spelled_minusZero :
    (Literal.mk true ['0'] (some ['0']) none).Spelled ['-', '0', '.', '0'] :=
  .parts (l := ⟨true, ['0'], some ['0'], none⟩) wholeDigits_zero (.present wholeDigits_zero.1)
    .absent

/-- Minus zero is printed with a point, without which it is read as a double all the same. -/
theorem chars_minusZero {d : Double} (value : Literal.minusZero.number? = some (.double d)) :
    chars (.num (.double d)) = ['-', '0', '.', '0'] ∧
      (Literal.mk true ['0'] (some ['0']) none).number? = some (.double d) := by
  have isZero : Literal.minusZero.number? = some (.double Double.zero.neg) := by decide +kernel
  rw [value] at isZero
  cases isZero
  exact ⟨by decide +kernel, by decide +kernel⟩

theorem denotes_elements {first : Json} {rest : List Json}
    (each : ∀ v ∈ first :: rest, Denotes admitted depth (chars v) (.value v)) :
    Denotes admitted depth (chars first ++ elementChars rest) (.elements (first :: rest)) := by
  have head := each first List.mem_cons_self
  induction rest generalizing first with
  | nil => exact .lastElement head blank_nil
  | cons v rest ih =>
    have later : ∀ w ∈ v :: rest, Denotes admitted depth (chars w) (.value w) :=
      fun w member => each w (List.mem_cons_of_mem _ member)
    have both : Denotes admitted depth
        (chars first ++ ([] ++ ',' :: ([] ++ (chars v ++ elementChars rest)))) _ :=
      .element head blank_nil blank_nil (ih later (later v List.mem_cons_self))
    exact both

theorem denotes_members {first : String × Json} {rest : List (String × Json)}
    (each : ∀ m ∈ first :: rest, Denotes admitted depth (chars m.2) (.value m.2)) :
    Denotes admitted depth (quoted first.1 ++ ':' :: (chars first.2 ++ memberChars rest))
      (.members (first :: rest)) := by
  have name := names_quoted first.1
  have head := each first List.mem_cons_self
  rw [List.append_cons]
  induction rest generalizing first with
  | nil => exact .lastMember name head blank_nil
  | cons m rest ih =>
    have later : ∀ e ∈ m :: rest, Denotes admitted depth (chars e.2) (.value e.2) :=
      fun e member => each e (List.mem_cons_of_mem _ member)
    have tail := ih later (names_quoted m.1) (later m List.mem_cons_self)
    rw [← List.append_cons] at tail
    have both : Denotes admitted depth ((quoted first.1 ++ [':']) ++ (chars first.2 ++
        ([] ++ ',' :: ([] ++ (quoted m.1 ++ ':' :: (chars m.2 ++ memberChars rest)))))) _ :=
      .member name head blank_nil blank_nil tail
    exact both

theorem denotes_arr {elements : List Json}
    (each : ∀ v ∈ elements, Denotes admitted depth (chars v) (.value v)) :
    Denotes admitted (depth + 1) (chars (.arr elements)) (.value (.arr elements)) := by
  cases elements with
  | nil => exact .emptyArr blank_nil
  | cons first rest =>
    have denotes := Denotes.arr blank_nil (denotes_elements each)
    exact denotes

/-- An object whose members are in the order of their names. -/
theorem denotes_obj {members : List (String × Json)} (sorted : Entries.Sorted members)
    (each : ∀ m ∈ members, Denotes admitted depth (chars m.2) (.value m.2)) :
    Denotes admitted (depth + 1) (chars (.obj members)) (.value (.obj members)) := by
  cases members with
  | nil => exact .emptyObj blank_nil
  | cons first rest =>
    have isObject : MembersOf (first :: rest) (first :: rest) :=
      membersOf_iff.mpr (Entries.ofList_eq_self sorted).symm
    have denotes := Denotes.obj blank_nil (denotes_members each) isObject
    exact denotes

/-! ## How long it is -/

/-- How many bytes an element takes, with the comma or bracket behind it. -/
def elementWidth (v : Json) : Nat :=
  width (chars v) + 1

/-- How many bytes a member takes, with the colon in it and the comma or brace behind it. -/
def memberWidth (m : String × Json) : Nat :=
  width (quoted m.1) + width (chars m.2) + 2

theorem width_lt_cons (c : Char) (cs : List Char) : width cs < width (c :: cs) := by
  have positive := c.utf8Size_pos
  rw [width_cons]
  omega

theorem width_quoted (s : String) : width (quoted s) = width (s.toList.flatMap escape) + 2 := by
  rw [quoted, width_cons, width_append, width_cons, width_nil, show '"'.utf8Size = 1 from rfl]
  omega

theorem width_elementChars (elements : List Json) :
    width (elementChars elements) = total elementWidth elements + 1 := by
  induction elements with
  | nil => rfl
  | cons v rest ih =>
    rw [elementChars, width_cons, width_append, ih]
    change 1 + (width (chars v) + _) = width (chars v) + 1 + total elementWidth rest + 1
    omega

theorem width_memberChars (members : List (String × Json)) :
    width (memberChars members) = total memberWidth members + 1 := by
  induction members with
  | nil => rfl
  | cons m rest ih =>
    rw [memberChars, width_cons, width_append, width_cons, width_append, ih]
    change 1 + (width (quoted m.1) + (1 + (width (chars m.2) + _))) =
      width (quoted m.1) + width (chars m.2) + 2 + total memberWidth rest + 1
    omega

theorem width_arr_le (elements : List Json) :
    width (chars (.arr elements)) ≤ total elementWidth elements + 2 := by
  cases elements with
  | nil => exact Nat.le_refl _
  | cons v rest =>
    have others := width_elementChars rest
    rw [chars, width_cons, width_append, others]
    change 1 + (width (chars v) + _) ≤ width (chars v) + 1 + total elementWidth rest + 2
    omega

theorem width_obj_le (members : List (String × Json)) :
    width (chars (.obj members)) ≤ total memberWidth members + 2 := by
  cases members with
  | nil => exact Nat.le_refl _
  | cons m rest =>
    have others := width_memberChars rest
    obtain ⟨name, v⟩ := m
    rw [chars, width_cons, width_append, width_cons, width_append, others]
    change 1 + (width (quoted name) + (1 + (width (chars v) + _))) ≤
      width (quoted name) + width (chars v) + 2 + total memberWidth rest + 2
    omega

/-- A name as it is written is not shorter than the quoted name with a colon. -/
theorem Names.width_quoted_lt {key : List Char} {name : String} (names : Names key name) :
    width (Json.quoted name) < width key := by
  obtain ⟨spells, -, -⟩ := names
  rename_i text spelled before after
  have shorter := spells.width_escape_le
  have colon := width_lt_cons ':' after
  rw [width_quoted, String.toList_ofList, width_cons, width_append, width_cons, width_append,
    show '"'.utf8Size = 1 from rfl]
  omega

/-! ## Printing -/

/-- What a piece of a text stands for is printed as another one that stands for the same, which is
at most twice as long. -/
def Item.Prints (depth : Nat) (text : List Char) : Item → Prop
  | .value v => Denotes anyNumber depth (chars v) (.value v) ∧ width (chars v) ≤ 2 * width text
  | .elements vs => (∀ v ∈ vs, Denotes anyNumber depth (chars v) (.value v)) ∧
    total elementWidth vs ≤ 2 * width text
  | .members ms => (∀ m ∈ ms, Denotes anyNumber depth (chars m.2) (.value m.2)) ∧
    total memberWidth ms ≤ 2 * width text

theorem Denotes.prints {text : List Char} {item : Item}
    (denotes : Denotes integersOnly depth text item) : item.Prints depth text := by
  induction denotes with
  | nullWord => exact ⟨.nullWord, by decide⟩
  | trueWord => exact ⟨.trueWord, by decide⟩
  | falseWord => exact ⟨.falseWord, by decide⟩
  | @int depth i least most =>
    have longer : width (Numeral.intDigits i) ≤ 2 * width (Numeral.intDigits i) := by omega
    exact ⟨.int least most, longer⟩
  | @double depth text l d spelled value isInteger =>
    have same : l = Literal.minusZero := isInteger
    subst same
    obtain ⟨printed, again⟩ := chars_minusZero value
    obtain ⟨isWhole, isFraction, isExponent⟩ := spelled
    cases isFraction
    cases isExponent
    refine ⟨?_, ?_⟩
    · rw [printed]
      exact .double spelled_minusZero again trivial
    · rw [printed]
      decide
  | @str depth text spelled spells =>
    have shorter := spells.width_escape_le
    refine ⟨denotes_quoted _, ?_⟩
    rw [chars, width_quoted, String.toList_ofList, width_cons, width_append, width_cons, width_nil,
      show '"'.utf8Size = 1 from rfl]
    omega
  | @emptyArr depth blank isBlank =>
    have longer := width_lt_cons '[' (blank ++ [']'])
    have printed : width (chars (.arr [])) = 2 := rfl
    refine ⟨denotes_arr nofun, ?_⟩
    omega
  | @arr depth blank text elements isBlank _ ih =>
    obtain ⟨each, short⟩ := ih
    have printed := width_arr_le elements
    have longer := width_lt_cons '[' (blank ++ text)
    rw [width_append] at longer
    refine ⟨denotes_arr each, ?_⟩
    omega
  | @emptyObj depth blank isBlank =>
    have longer := width_lt_cons '\x7b' (blank ++ ['\x7d'])
    have printed : width (chars (.obj [])) = 2 := rfl
    refine ⟨denotes_obj List.Pairwise.nil nofun, ?_⟩
    omega
  | @obj depth blank text written members isBlank _ isObject ih =>
    obtain ⟨each, short⟩ := ih
    have same := membersOf_iff.mp isObject
    have fewer := total_ofList_le memberWidth written
    have printed := width_obj_le members
    have longer := width_lt_cons '\x7b' (blank ++ text)
    rw [width_append] at longer
    rw [← same] at fewer
    refine ⟨denotes_obj isObject.sorted fun m member => ?_, ?_⟩
    · rw [same] at member
      exact each m (mem_of_mem_ofList member)
    · omega
  | @lastElement depth text blank v _ isBlank ih =>
    obtain ⟨denotes, short⟩ := ih
    refine ⟨fun w member => ?_, ?_⟩
    · rw [List.mem_singleton.mp member]
      exact denotes
    · change width (chars v) + 1 + 0 ≤ _
      rw [width_append, width_append, show width [']'] = 1 from rfl]
      omega
  | @element depth text before after rest v elements _ isBefore isAfter _ ih ihRest =>
    obtain ⟨denotes, short⟩ := ih
    obtain ⟨each, shortRest⟩ := ihRest
    have comma := width_lt_cons ',' (after ++ rest)
    rw [width_append] at comma
    refine ⟨fun w member => ?_, ?_⟩
    · rcases List.mem_cons.mp member with rfl | later
      · exact denotes
      · exact each w later
    · change width (chars v) + 1 + total elementWidth elements ≤ _
      rw [width_append, width_append]
      omega
  | @lastMember depth key text blank name v names _ isBlank ih =>
    obtain ⟨denotes, short⟩ := ih
    have shortName := names.width_quoted_lt
    refine ⟨fun m member => ?_, ?_⟩
    · rw [List.mem_singleton.mp member]
      exact denotes
    · change width (quoted name) + width (chars v) + 2 + 0 ≤ _
      rw [width_append, width_append, width_append, show width ['\x7d'] = 1 from rfl]
      omega
  | @member depth key text before after rest name v members names _ isBefore isAfter _ ih ihRest =>
    obtain ⟨denotes, short⟩ := ih
    obtain ⟨each, shortRest⟩ := ihRest
    have shortName := names.width_quoted_lt
    have comma := width_lt_cons ',' (after ++ rest)
    rw [width_append] at comma
    refine ⟨fun m member => ?_, ?_⟩
    · rcases List.mem_cons.mp member with rfl | later
      · exact denotes
      · exact each m later
    · change width (quoted name) + width (chars v) + 2 + total memberWidth members ≤ _
      rw [width_append, width_append, width_append]
      omega

/-! ## Reading again -/

theorem length_bytes (v : Json) : v.bytes.length = width (chars v) := rfl

/-- The members of an object are printed as texts that are read again. -/
theorem Denotes.prints_members {text : List Char} {members : List (String × Json)}
    (denotes : Denotes integersOnly depth text (.value (.obj members))) :
    Entries.Sorted members ∧ ∀ m ∈ members,
      Denotes anyNumber depth (chars m.2) (.value m.2) ∧ m.2.bytes.length ≤ 2 * width text := by
  generalize isObject : Item.value (.obj members) = item at denotes
  cases denotes with
  | emptyObj _ =>
    cases isObject
    exact ⟨List.Pairwise.nil, nofun⟩
  | @obj inner blank part written members isBlank denotes membersOf =>
    cases isObject
    obtain ⟨each, short⟩ := denotes.prints
    refine ⟨membersOf.sorted, fun m member => ?_⟩
    rw [membersOf_iff.mp membersOf] at member
    have isWritten := mem_of_mem_ofList member
    refine ⟨(each m isWritten).mono (fun _ => id) (Nat.le_succ _), ?_⟩
    have counted : memberWidth m ≤ total memberWidth written := le_total isWritten
    have inside : width (chars m.2) ≤ memberWidth m := by
      unfold memberWidth
      omega
    have longer := width_lt_cons '\x7b' (blank ++ part)
    rw [width_append] at longer
    rw [length_bytes]
    omega
  | _ => cases isObject

theorem ofBytes?_bytes {v : Json} (denotes : Denotes anyNumber maxDepth (chars v) (.value v)) :
    ofBytes? v.bytes = some v := by
  have holds : Holds anyNumber ([] ++ (chars v ++ [])) v := .within blank_nil blank_nil denotes
  rw [List.nil_append, List.append_nil] at holds
  rw [ofBytes?, bytes, Bytes.text?_utf8, Option.bind_some, parse?, Json.text, String.toList_ofList]
  exact ofChars?_eq_some_iff.mpr holds

theorem length_utf8_eq_width (s : String) : (utf8 s).length = width s.toList := by
  rw [width, String.ofList_toList]
  rfl

/-- Every member of an object that holds integers only is printed as a text from which it is read
again, and which is at most twice as long as the text of the object. -/
theorem Holds.prints_members {text : String} {members : List (String × Json)}
    (holds : Holds integersOnly text.toList (.obj members)) :
    Entries.Sorted members ∧ ∀ m ∈ members,
      ofBytes? m.2.bytes = some m.2 ∧ m.2.bytes.length ≤ 2 * (utf8 text).length := by
  rw [length_utf8_eq_width]
  generalize text.toList = cs at holds ⊢
  obtain ⟨-, -, denotes⟩ := holds
  obtain ⟨sorted, each⟩ := denotes.prints_members
  refine ⟨sorted, fun m member => ?_⟩
  obtain ⟨printed, short⟩ := each m member
  refine ⟨ofBytes?_bytes printed, Nat.le_trans short ?_⟩
  rw [width_append, width_append]
  omega

end Gatehouse.Json
