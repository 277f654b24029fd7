import Gatehouse.Upload.Multipart
import Mathlib.Algebra.Group.Nat.Even
import Mathlib.Data.List.Basic

/-!
Field values with parameters: a word, and behind it parameters with a semicolon in front of each.

`FieldValue.Spells` is the grammar of HTTP for them. The value of a parameter is a token or stands
between quotes, and between quotes a backslash takes away the meaning of the byte behind it. The
theorem `spells_quoted_iff` finds all that a value can be read as which has one parameter between
quotes, whatever stands there.
-/

namespace Gatehouse

open Upload.Multipart (isBlankByte isNameByte isValueByte)

/-- The value of a parameter, and how it is written. -/
inductive ParameterValue where
  | token (text : Bytes)
  | quoted (text : Bytes)

/-- A word with parameters. -/
structure FieldValue where
  word : Bytes
  params : List (Bytes × ParameterValue)

/-! ## The grammar -/

/-- A text between quotes and what it stands for. -/
inductive Unquotes : (text value : Bytes) → Prop where
  | nil : Unquotes [] []
  | plain {b : UInt8} {text value : Bytes} (isValue : isValueByte b = true) (notQuote : b ≠ 0x22)
      (notBackslash : b ≠ 0x5C) (rest : Unquotes text value) : Unquotes (b :: text) (b :: value)
  | escaped {b : UInt8} {text value : Bytes} (isValue : isValueByte b = true)
      (rest : Unquotes text value) : Unquotes (0x5C :: b :: text) (b :: value)

structure IsToken (text : Bytes) : Prop where
  nonempty : text ≠ []
  isName : ∀ b ∈ text, isNameByte b = true

def IsBlank (text : Bytes) : Prop := ∀ b ∈ text, isBlankByte b = true

inductive ParameterValue.Spells : ParameterValue → Bytes → Prop where
  | token {text : Bytes} (isToken : IsToken text) : Spells (.token text) text
  | quoted {text value : Bytes} (unquotes : Unquotes text value) :
      Spells (.quoted value) (0x22 :: (text ++ [0x22]))

/-- Parameters as they stand behind a word. There may be semicolons with no parameter behind. -/
inductive SpellsParams : List (Bytes × ParameterValue) → Bytes → Prop where
  | nil : SpellsParams [] []
  | empty {before after rest : Bytes} {params : List (Bytes × ParameterValue)}
      (blankBefore : IsBlank before) (blankAfter : IsBlank after)
      (more : SpellsParams params rest) : SpellsParams params (before ++ 0x3B :: (after ++ rest))
  | param {before after name text rest : Bytes} {value : ParameterValue}
      {params : List (Bytes × ParameterValue)} (blankBefore : IsBlank before)
      (blankAfter : IsBlank after) (isToken : IsToken name) (spells : value.Spells text)
      (more : SpellsParams params rest) :
      SpellsParams ((name, value) :: params)
        (before ++ 0x3B :: (after ++ (name ++ 0x3D :: (text ++ rest))))

/-- A text is a form of a word with parameters. -/
def FieldValue.Spells (field : FieldValue) (text : Bytes) : Prop :=
  IsToken field.word ∧ ∃ rest, SpellsParams field.params rest ∧ text = field.word ++ rest

/-! ## Where a part ends -/

/-- A text begins with a byte outside of a class, or is empty. -/
def Leaves (p : UInt8 → Bool) (text : Bytes) : Prop := ∀ b ∈ text.head?, p b = false

theorem leaves_nil (p : UInt8 → Bool) : Leaves p [] := nofun

theorem leaves_cons {p : UInt8 → Bool} {b : UInt8} (outside : p b = false) (rest : Bytes) :
    Leaves p (b :: rest) := by
  rintro _ ⟨⟩
  exact outside

/-- What belongs to a class and is not followed by more of it is found by its class. -/
theorem takeWhile_append_of_leaves {p : UInt8 → Bool} {front rest : Bytes}
    (inClass : ∀ b ∈ front, p b = true) (leaves : Leaves p rest) :
    (front ++ rest).takeWhile p = front := by
  rw [List.takeWhile_append_of_pos inClass]
  cases rest with
  | nil => simp
  | cons b rest => simp [leaves b rfl]

theorem eq_of_leaves {p : UInt8 → Bool} {a b r s : Bytes} (aClass : ∀ x ∈ a, p x = true)
    (bClass : ∀ x ∈ b, p x = true) (rLeaves : Leaves p r) (sLeaves : Leaves p s)
    (same : a ++ r = b ++ s) : a = b ∧ r = s := by
  have front : a = b := by
    rw [← takeWhile_append_of_leaves aClass rLeaves, same,
      takeWhile_append_of_leaves bClass sLeaves]
  rw [front] at same
  exact ⟨front, List.append_cancel_left same⟩

theorem isNameByte_of_isBlankByte {b : UInt8} (blank : isBlankByte b = true) :
    isNameByte b = false := by
  have either : b = 0x20 ∨ b = 0x09 := by simpa [isBlankByte] using blank
  rcases either with rfl | rfl <;> decide

/-- Parameters begin with a semicolon, behind blanks. -/
theorem SpellsParams.begins {params : List (Bytes × ParameterValue)} {text : Bytes}
    (spells : SpellsParams params text) :
    text = [] ∨ ∃ before rest, IsBlank before ∧ text = before ++ 0x3B :: rest := by
  cases spells with
  | nil => exact Or.inl rfl
  | empty blankBefore _ _ => exact Or.inr ⟨_, _, blankBefore, rfl⟩
  | param blankBefore _ _ _ _ => exact Or.inr ⟨_, _, blankBefore, rfl⟩

theorem SpellsParams.leaves {params : List (Bytes × ParameterValue)} {text : Bytes}
    (spells : SpellsParams params text) : Leaves isNameByte text := by
  rcases spells.begins with rfl | ⟨before, rest, blank, rfl⟩
  · exact leaves_nil _
  · cases before with
    | nil => exact leaves_cons (by decide) rest
    | cons b before =>
      exact leaves_cons (isNameByte_of_isBlankByte (blank b List.mem_cons_self)) _

theorem IsToken.leaves_blanks {text : Bytes} (isToken : IsToken text) (rest : Bytes) :
    Leaves isBlankByte (text ++ rest) := by
  obtain ⟨b, text, rfl⟩ := List.exists_cons_of_ne_nil isToken.nonempty
  refine leaves_cons ?_ (text ++ rest)
  rw [← Bool.not_eq_true]
  intro blank
  have isName := isToken.isName b List.mem_cons_self
  rw [isNameByte_of_isBlankByte blank] at isName
  cases isName

/-- A token does not begin with a byte that may not stand in it. -/
theorem IsToken.append_ne {text rest other : Bytes} {b : UInt8} (isToken : IsToken text)
    (notName : isNameByte b = false) : text ++ rest ≠ b :: other := by
  obtain ⟨first, text, rfl⟩ := List.exists_cons_of_ne_nil isToken.nonempty
  intro same
  cases same
  have isName := isToken.isName b List.mem_cons_self
  rw [notName] at isName
  cases isName

/-! ## One parameter between quotes -/

theorem SpellsParams.eq_nil {params : List (Bytes × ParameterValue)} {text : Bytes}
    (spells : SpellsParams params text) (empty : text = []) : params = [] := by
  cases spells with
  | nil => rfl
  | empty _ _ _ => simp at empty
  | param _ _ _ _ _ => simp at empty

/-- What can stand behind a semicolon: a parameter, or what follows it at once. -/
theorem SpellsParams.of_semicolon {params : List (Bytes × ParameterValue)} {text : Bytes}
    (spells : SpellsParams params (0x3B :: text)) :
    (∃ after rest, IsBlank after ∧ SpellsParams params rest ∧ text = after ++ rest) ∨
      ∃ after name written rest value more, IsBlank after ∧ IsToken name ∧
        ParameterValue.Spells value written ∧ SpellsParams more rest ∧
        params = (name, value) :: more ∧ text = after ++ (name ++ 0x3D :: (written ++ rest)) := by
  have semicolon (rest : Bytes) : Leaves isBlankByte (0x3B :: rest) := leaves_cons (by decide) rest
  have first {before rest : Bytes} (blank : IsBlank before)
      (same : before ++ 0x3B :: rest = 0x3B :: text) : rest = text := by
    rw [← List.nil_append (0x3B :: text)] at same
    exact List.tail_eq_of_cons_eq
      (eq_of_leaves blank (by simp) (semicolon rest) (semicolon text) same).2
  generalize whole : 0x3B :: text = written at spells
  cases spells with
  | nil => cases whole
  | @empty before after rest _ blankBefore blankAfter more =>
    exact Or.inl ⟨after, rest, blankAfter, more, (first blankBefore whole.symm).symm⟩
  | @param before after name written rest value params blankBefore blankAfter isToken spells more =>
    exact Or.inr ⟨after, name, written, rest, value, params, blankAfter, isToken, spells, more, rfl,
      (first blankBefore whole.symm).symm⟩

/-- A parameter behind a blank has to be read where it stands. -/
theorem SpellsParams.of_param {params : List (Bytes × ParameterValue)} {name written : Bytes}
    (isToken : IsToken name)
    (spells : SpellsParams params (0x3B :: 0x20 :: (name ++ 0x3D :: written))) :
    ∃ text rest value more, ParameterValue.Spells value text ∧ SpellsParams more rest ∧
      params = (name, value) :: more ∧ written = text ++ rest := by
  have blank : IsBlank [0x20] := by simp [IsBlank, isBlankByte]
  have named := isToken.leaves_blanks (0x3D :: written)
  have equals (rest : Bytes) : Leaves isNameByte (0x3D :: rest) := leaves_cons (by decide) rest
  rcases spells.of_semicolon with ⟨after, rest, blankAfter, more, same⟩ |
    ⟨after, other, text, rest, value, params, blankAfter, otherToken, valued, more, rfl, same⟩
  · exfalso
    rcases more.begins with rfl | ⟨before, rest, blankBefore, rfl⟩
    · have left := (eq_of_leaves blank blankAfter named (leaves_nil _) same).2
      simp at left
    · have blanks : IsBlank (after ++ before) := by
        intro b member
        rcases List.mem_append.mp member with inAfter | inBefore
        · exact blankAfter b inAfter
        · exact blankBefore b inBefore
      rw [← List.append_assoc] at same
      have semicolon : Leaves isBlankByte (0x3B :: rest) := leaves_cons (by decide) rest
      exact isToken.append_ne (by decide) (eq_of_leaves blank blanks named semicolon same).2
  · have names := (eq_of_leaves blank blankAfter named (otherToken.leaves_blanks _) same).2
    obtain ⟨rfl, values⟩ :=
      eq_of_leaves isToken.isName otherToken.isName (equals _) (equals _) names
    exact ⟨text, rest, value, params, valued, more, rfl, List.tail_eq_of_cons_eq values⟩

/-- All that a word with one parameter between quotes can be read as: that word with that parameter,
whose value is a text that the quotes may stand for. -/
theorem spells_quoted_iff {word name text : Bytes} (isWord : IsToken word) (isName : IsToken name)
    (plain : 0x22 ∉ text) {field : FieldValue} :
    field.Spells (word ++ 0x3B :: 0x20 :: (name ++ 0x3D :: 0x22 :: (text ++ [0x22]))) ↔
      ∃ value, Unquotes text value ∧ field = ⟨word, [(name, .quoted value)]⟩ := by
  constructor
  · rcases field with ⟨other, params⟩
    rintro ⟨otherWord, rest, spells, same⟩
    have semicolon (rest : Bytes) : Leaves isNameByte (0x3B :: rest) := leaves_cons (by decide) rest
    obtain ⟨rfl, rfl⟩ :=
      eq_of_leaves isWord.isName otherWord.isName (semicolon _) spells.leaves same
    obtain ⟨written, rest, value, more, valued, moreSpells, rfl, values⟩ := spells.of_param isName
    cases valued with
    | token isToken => exact absurd values.symm (isToken.append_ne (by decide))
    | @quoted other value unquotes =>
      rw [List.cons_append, List.append_assoc, List.singleton_append] at values
      -- the only quote in the text is the one that closes it
      obtain ⟨rfl, -, rfl⟩ := (List.append_cons_inj_of_notMem plain (by simp)).mp
        (List.tail_eq_of_cons_eq values)
      rw [moreSpells.eq_nil rfl]
      exact ⟨value, unquotes, rfl⟩
  · rintro ⟨value, unquotes, rfl⟩
    have param : SpellsParams [(name, .quoted value)]
        ([] ++ 0x3B :: ([0x20] ++ (name ++ 0x3D :: (0x22 :: (text ++ [0x22]) ++ [])))) :=
      .param (by simp [IsBlank]) (by simp [IsBlank, isBlankByte]) isName (.quoted unquotes) .nil
    refine ⟨isWord, _, param, ?_⟩
    simp

/-! ## What quotes stand for -/

/-- Without a backslash between them, quotes stand for what is between them. -/
theorem unquotes_self {text : Bytes} (isValue : ∀ b ∈ text, isValueByte b = true)
    (notQuote : 0x22 ∉ text) (notBackslash : 0x5C ∉ text) : Unquotes text text := by
  induction text with
  | nil => exact .nil
  | cons b text ih =>
    rw [List.forall_mem_cons] at isValue
    rw [List.mem_cons, not_or] at notQuote notBackslash
    exact .plain isValue.1 (Ne.symm notQuote.1) (Ne.symm notBackslash.1)
      (ih isValue.2 notQuote.2 notBackslash.2)

/-- A backslash is not part of what quotes stand for. -/
theorem Unquotes.length_le {text value : Bytes} (unquotes : Unquotes text value) :
    value.length ≤ text.length ∧ (value.length = text.length → 0x5C ∉ text) := by
  induction unquotes with
  | nil => simp
  | plain _ _ notBackslash _ ih =>
    simp only [List.length_cons, List.mem_cons, not_or]
    exact ⟨by omega, fun same => ⟨Ne.symm notBackslash, ih.2 (by omega)⟩⟩
  | escaped _ _ ih =>
    simp only [List.length_cons]
    omega

theorem Unquotes.unique {text value other : Bytes} (unquotes : Unquotes text value)
    (otherwise : Unquotes text other) : value = other := by
  induction unquotes generalizing other with
  | nil =>
    cases otherwise
    rfl
  | plain _ _ notBackslash _ ih =>
    cases otherwise with
    | plain _ _ _ rest => rw [ih rest]
    | escaped _ _ => exact absurd rfl notBackslash
  | escaped _ _ ih =>
    cases otherwise with
    | plain _ _ notBackslash _ => exact absurd rfl notBackslash
    | escaped _ rest => rw [ih rest]

/-- The number of backslashes at the end of a text. -/
def finalBackslashes (text : Bytes) : Nat := (text.reverse.takeWhile (· = 0x5C)).length

theorem finalBackslashes_le (text : Bytes) : finalBackslashes text ≤ text.length := by
  rw [← List.length_reverse]
  exact (List.takeWhile_prefix _).length_le

theorem finalBackslashes_cons (b : UInt8) (text : Bytes) :
    finalBackslashes (b :: text) =
      if finalBackslashes text = text.length ∧ b = 0x5C then text.length + 1
      else finalBackslashes text := by
  unfold finalBackslashes
  rw [List.reverse_cons, List.takeWhile_append, List.length_reverse]
  by_cases all : (text.reverse.takeWhile (· = 0x5C)).length = text.length
  · by_cases same : b = 0x5C <;> simp [all, same]
  · simp [all]

theorem even_finalBackslashes_escaped (b : UInt8) (text : Bytes) :
    Even (finalBackslashes (0x5C :: b :: text)) ↔ Even (finalBackslashes text) := by
  have short := finalBackslashes_le text
  rw [finalBackslashes_cons, finalBackslashes_cons, List.length_cons, Nat.even_iff, Nat.even_iff]
  by_cases all : finalBackslashes text = text.length
  · by_cases backslash : b = 0x5C <;> simp [all, backslash]
    omega
  · have fewer : finalBackslashes text ≠ text.length + 1 := by omega
    simp [all, fewer]

/-- Quotes stand for a text unless the closing one is escaped, which is so behind an odd number of
backslashes. -/
theorem exists_unquotes_iff : ∀ {text : Bytes}, (∀ b ∈ text, isValueByte b = true) →
    0x22 ∉ text → ((∃ value, Unquotes text value) ↔ Even (finalBackslashes text))
  | [], _, _ => iff_of_true ⟨[], .nil⟩ (by decide)
  | b :: text, isValue, notQuote => by
    rw [List.forall_mem_cons] at isValue
    rw [List.mem_cons, not_or] at notQuote
    by_cases backslash : b = 0x5C
    · subst backslash
      cases text with
      | nil =>
        refine iff_of_false ?_ (by decide)
        rintro ⟨value, unquotes⟩
        cases unquotes with
        | plain _ _ notBackslash _ => exact notBackslash rfl
      | cons c text =>
        rw [List.forall_mem_cons] at isValue
        rw [List.mem_cons, not_or] at notQuote
        rw [even_finalBackslashes_escaped, ← exists_unquotes_iff isValue.2.2 notQuote.2.2]
        constructor
        · rintro ⟨value, unquotes⟩
          cases unquotes with
          | plain _ _ notBackslash _ => exact absurd rfl notBackslash
          | escaped _ rest => exact ⟨_, rest⟩
        · rintro ⟨value, unquotes⟩
          exact ⟨c :: value, .escaped isValue.2.1 unquotes⟩
    · rw [finalBackslashes_cons, if_neg (fun both => backslash both.2),
        ← exists_unquotes_iff isValue.2 notQuote.2]
      constructor
      · rintro ⟨value, unquotes⟩
        cases unquotes with
        | plain _ _ _ rest => exact ⟨_, rest⟩
        | escaped _ _ => exact absurd rfl backslash
      · rintro ⟨value, unquotes⟩
        exact ⟨b :: value, .plain isValue.1 (Ne.symm notQuote.1) backslash unquotes⟩

end Gatehouse
