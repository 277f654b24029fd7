import Gatehouse.Json.Parser
import Gatehouse.Proofs.Dict

/-!
The grammar of JSON text.

`Denotes admitted depth text item` says which value a text stands for, independently of how texts
are read: which characters a string spells, which integer a numeral is, which elements and members a
container has. Containers are nested at most `depth` deep, and of two members of one name the later
one counts. White space belongs to the text of the container in which it stands; around a whole
text, `Holds` allows for it. Both can be restricted to texts with certain numbers only.
-/

namespace Gatehouse.Json

/-- White space between the parts of a text. -/
def Blank (cs : List Char) : Prop :=
  ∀ c ∈ cs, c = ' ' ∨ c = '\n' ∨ c = '\t' ∨ c = '\r'

/-! ## Strings -/

/-- The letters of the short escapes, each with the character it stands for. -/
def shortEscapes : List (Char × Char) :=
  [('"', '"'), ('\\', '\\'), ('/', '/'), ('b', '\x08'), ('f', '\x0c'), ('n', '\n'), ('r', '\r'),
    ('t', '\t')]

/-- Four hexadecimal digits with their value. -/
inductive CodeUnit : List Char → Nat → Prop
  | digits {a b c d : Char} {w x y z : Nat} : Hex.value? a = some w → Hex.value? b = some x →
    Hex.value? c = some y → Hex.value? d = some z →
    CodeUnit [a, b, c, d] (w * 0x1000 + x * 0x100 + y * 0x10 + z)

/-- A text between quotes, with the characters that it spells. A character beyond 16 bits may be
escaped as two units, the first with its high bits and the second with its low ten. -/
inductive Spells : List Char → List Char → Prop
  | nil : Spells [] []
  | plain {c : Char} {text spelled : List Char} : 32 ≤ c.toNat → c ≠ '"' → c ≠ '\\' →
    Spells text spelled → Spells (c :: text) (c :: spelled)
  | short {letter c : Char} {text spelled : List Char} : (letter, c) ∈ shortEscapes →
    Spells text spelled → Spells ('\\' :: letter :: text) (c :: spelled)
  | unit {c : Char} {digits text spelled : List Char} : CodeUnit digits c.toNat →
    Spells text spelled → Spells ('\\' :: 'u' :: (digits ++ text)) (c :: spelled)
  | pair {c : Char} {high low : Nat} {digits lowDigits text spelled : List Char} :
    CodeUnit digits (0xD800 + high) → CodeUnit lowDigits (0xDC00 + low) →
    high < 0x400 → low < 0x400 →
    c.toNat = 0x10000 + high * 0x400 + low → Spells text spelled →
    Spells ('\\' :: 'u' :: (digits ++ '\\' :: 'u' :: (lowDigits ++ text))) (c :: spelled)

/-! ## Numbers -/

/-- One digit or more. -/
def Digits (cs : List Char) : Prop :=
  cs ≠ [] ∧ ∀ c ∈ cs, Numeral.isDigit c = true

/-- The digits before the point: a zero alone, or a row of digits that starts with another. -/
def WholeDigits (cs : List Char) : Prop :=
  Digits cs ∧ (cs.head? = some '0' → cs = ['0'])

inductive FractionText : Option (List Char) → List Char → Prop
  | absent : FractionText none []
  | present {digits : List Char} : Digits digits → FractionText (some digits) ('.' :: digits)

inductive ExponentText : Option Int → List Char → Prop
  | absent : ExponentText none []
  | bare {mark : Char} {digits : List Char} : mark = 'e' ∨ mark = 'E' → Digits digits →
    ExponentText (some (Numeral.natOfDigits digits)) (mark :: digits)
  | plus {mark : Char} {digits : List Char} : mark = 'e' ∨ mark = 'E' → Digits digits →
    ExponentText (some (Numeral.natOfDigits digits)) (mark :: '+' :: digits)
  | minus {mark : Char} {digits : List Char} : mark = 'e' ∨ mark = 'E' → Digits digits →
    ExponentText (some (-Numeral.natOfDigits digits)) (mark :: '-' :: digits)

def signText (negative : Bool) : List Char :=
  if negative then ['-'] else []

/-- A text that spells a literal. -/
inductive Literal.Spelled (l : Literal) : List Char → Prop
  | parts {fraction exponent : List Char} : WholeDigits l.whole →
    FractionText l.fraction fraction → ExponentText l.exponent exponent →
    l.Spelled (signText l.negative ++ (l.whole ++ (fraction ++ exponent)))

/-- The literal of minus zero, the only integer that is no integer of 64 bits but a double. -/
def Literal.minusZero : Literal :=
  ⟨true, ['0'], none, none⟩

/-! ## Values -/

/-- What a part of a text may stand for. -/
inductive Item where
  | value (value : Json)
  /-- The elements of an array up to its closing bracket, one at least. -/
  | elements (elements : List Json)
  /-- The members of an object up to its closing brace as they are written, one at least. -/
  | members (members : List (String × Json))

/-- The name of a member and the colon behind it. -/
inductive Names : List Char → String → Prop
  | quoted {text spelled before after : List Char} : Spells text spelled → Blank before →
    Blank after → Names ('"' :: (text ++ '"' :: (before ++ ':' :: after))) (String.ofList spelled)

/-- What the last member of a name says. -/
def lastOf (name : String) (written : List (String × Json)) : Option Json :=
  (written.reverse.find? fun m => name = m.1).map (·.2)

/-- The members of an object that is written with the given ones: in the order of their names, and
of each name the last one. -/
structure MembersOf (written members : List (String × Json)) : Prop where
  sorted : Entries.Sorted members
  mem_iff : ∀ m, m ∈ members ↔ lastOf m.1 written = some m.2

theorem membersOf_iff {written members : List (String × Json)} :
    MembersOf written members ↔ members = Entries.ofList written := by
  have sorted := Entries.sorted_ofList written
  have found (name : String) : Entries.get? name (Entries.ofList written) = lastOf name written :=
    Entries.get?_ofList name written
  constructor
  · rintro ⟨isSorted, mem_iff⟩
    refine Entries.eq_of_get? isSorted sorted fun name => Option.ext fun v => ?_
    rw [found, ← mem_iff (name, v)]
    exact (Dict.mem_entries_iff (d := ⟨members, isSorted⟩)).symm
  · rintro rfl
    refine ⟨sorted, fun m => ?_⟩
    rw [← found]
    exact Dict.mem_entries_iff (d := ⟨_, sorted⟩)

section Values

variable (admitted : Literal → Prop)

/-- What a text stands for, with containers nested at most `depth` deep. An integer of 64 bits is
written as its numeral; any other number is a double, and only `admitted` ones may occur. -/
inductive Denotes : Nat → List Char → Item → Prop
  | nullWord {depth : Nat} : Denotes depth ['n', 'u', 'l', 'l'] (.value .null)
  | trueWord {depth : Nat} : Denotes depth ['t', 'r', 'u', 'e'] (.value (.bool true))
  | falseWord {depth : Nat} : Denotes depth ['f', 'a', 'l', 's', 'e'] (.value (.bool false))
  | int {depth : Nat} {i : Int} : -0x8000000000000000 ≤ i → i < 0x10000000000000000 →
    Denotes depth (Numeral.intDigits i) (.value (.num (.int i)))
  | double {depth : Nat} {text : List Char} {l : Literal} {d : Double} : l.Spelled text →
    l.number? = some (.double d) → admitted l → Denotes depth text (.value (.num (.double d)))
  | str {depth : Nat} {text spelled : List Char} : Spells text spelled →
    Denotes depth ('"' :: (text ++ ['"'])) (.value (.str (String.ofList spelled)))
  | emptyArr {depth : Nat} {blank : List Char} : Blank blank →
    Denotes (depth + 1) ('[' :: (blank ++ [']'])) (.value (.arr []))
  | arr {depth : Nat} {blank text : List Char} {elements : List Json} : Blank blank →
    Denotes depth text (.elements elements) →
    Denotes (depth + 1) ('[' :: (blank ++ text)) (.value (.arr elements))
  | emptyObj {depth : Nat} {blank : List Char} : Blank blank →
    Denotes (depth + 1) ('\x7b' :: (blank ++ ['\x7d'])) (.value (.obj []))
  | obj {depth : Nat} {blank text : List Char} {written members : List (String × Json)} :
    Blank blank → Denotes depth text (.members written) → MembersOf written members →
    Denotes (depth + 1) ('\x7b' :: (blank ++ text)) (.value (.obj members))
  | lastElement {depth : Nat} {text blank : List Char} {v : Json} :
    Denotes depth text (.value v) → Blank blank →
    Denotes depth (text ++ (blank ++ [']'])) (.elements [v])
  | element {depth : Nat} {text before after rest : List Char} {v : Json} {elements : List Json} :
    Denotes depth text (.value v) → Blank before → Blank after →
    Denotes depth rest (.elements elements) →
    Denotes depth (text ++ (before ++ ',' :: (after ++ rest))) (.elements (v :: elements))
  | lastMember {depth : Nat} {key text blank : List Char} {name : String} {v : Json} :
    Names key name → Denotes depth text (.value v) → Blank blank →
    Denotes depth (key ++ (text ++ (blank ++ ['\x7d']))) (.members [(name, v)])
  | member {depth : Nat} {key text before after rest : List Char} {name : String} {v : Json}
    {members : List (String × Json)} : Names key name → Denotes depth text (.value v) →
    Blank before → Blank after → Denotes depth rest (.members members) →
    Denotes depth (key ++ (text ++ (before ++ ',' :: (after ++ rest))))
      (.members ((name, v) :: members))

/-- A whole text that stands for a value, with white space around it. -/
inductive Holds : List Char → Json → Prop
  | within {before text after : List Char} {v : Json} : Blank before → Blank after →
    Denotes admitted maxDepth text (.value v) → Holds (before ++ (text ++ after)) v

end Values

/-- Texts with any numbers. -/
def anyNumber (_ : Literal) : Prop :=
  True

/-- Texts whose numbers are integers of 64 bits, signed or not. -/
def integersOnly (l : Literal) : Prop :=
  l = .minusZero

variable {admitted : Literal → Prop}

/-- What a text stands for stays so if more numbers are admitted and containers may be nested
deeper. -/
theorem Denotes.mono {others : Literal → Prop} (more : ∀ l, admitted l → others l)
    {depth deep : Nat} {text : List Char} {item : Item}
    (denotes : Denotes admitted depth text item) (order : depth ≤ deep) :
    Denotes others deep text item := by
  induction denotes generalizing deep with
  | nullWord => exact .nullWord
  | trueWord => exact .trueWord
  | falseWord => exact .falseWord
  | int least most => exact .int least most
  | double spelled value isAdmitted => exact .double spelled value (more _ isAdmitted)
  | str spells => exact .str spells
  | emptyArr isBlank =>
    obtain ⟨extra, rfl⟩ := Nat.exists_eq_add_of_le' order
    exact .emptyArr isBlank
  | arr isBlank _ ih =>
    obtain ⟨extra, rfl⟩ := Nat.exists_eq_add_of_le' order
    exact .arr isBlank (ih (Nat.le_add_left _ _))
  | emptyObj isBlank =>
    obtain ⟨extra, rfl⟩ := Nat.exists_eq_add_of_le' order
    exact .emptyObj isBlank
  | obj isBlank _ isObject ih =>
    obtain ⟨extra, rfl⟩ := Nat.exists_eq_add_of_le' order
    exact .obj isBlank (ih (Nat.le_add_left _ _)) isObject
  | lastElement _ isBlank ih => exact .lastElement (ih order) isBlank
  | element _ isBefore isAfter _ ih ihLater =>
    exact .element (ih order) isBefore isAfter (ihLater order)
  | lastMember names _ isBlank ih => exact .lastMember names (ih order) isBlank
  | member names _ isBefore isAfter _ ih ihLater =>
    exact .member names (ih order) isBefore isAfter (ihLater order)

theorem Holds.anyNumber {cs : List Char} {v : Json} (holds : Holds admitted cs v) :
    Holds Json.anyNumber cs v := by
  obtain ⟨isBefore, isAfter, denotes⟩ := holds
  exact .within isBefore isAfter (denotes.mono (fun _ _ => trivial) (Nat.le_refl _))

end Gatehouse.Json
