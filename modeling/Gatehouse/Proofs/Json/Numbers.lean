import Gatehouse.Proofs.Json.Grammar
import Gatehouse.Proofs.Text.RoundTrip
import Mathlib.Data.List.TakeDrop

/-!
Numbers of a JSON text.

A number is read as far as its characters go, and every spelling of a literal is read. A literal
that denotes an integer is the numeral of that integer and nothing else.
-/

namespace Gatehouse

/-! ## Numerals -/

namespace Numeral

/-- The number that digits denote behind the digits of another. -/
def append (n : Nat) (cs : List Char) : Nat :=
  cs.foldl (fun n c => n * 10 + (c.toNat - 48)) n

theorem natOfDigits_eq (cs : List Char) : natOfDigits cs = append 0 cs := rfl

theorem le_append (n : Nat) (cs : List Char) : n ≤ append n cs := by
  induction cs generalizing n with
  | nil => exact Nat.le_refl n
  | cons c rest ih =>
    refine Nat.le_trans ?_ (ih (n * 10 + (c.toNat - 48)))
    omega

theorem digits_append {n : Nat} (positive : 0 < n) {cs : List Char}
    (all : ∀ c ∈ cs, isDigit c = true) : digits (append n cs) = digits n ++ cs := by
  induction cs generalizing n with
  | nil => exact (List.append_nil _).symm
  | cons c rest ih =>
    have digit := all c List.mem_cons_self
    have range := toNat_of_isDigit digit
    have quotient : (n * 10 + (c.toNat - 48)) / 10 = n := by omega
    have remainder : (n * 10 + (c.toNat - 48)) % 10 = c.toNat - 48 := by omega
    change digits (append (n * 10 + (c.toNat - 48)) rest) = _
    rw [ih (by omega) fun d member => all d (List.mem_cons_of_mem _ member), digits,
      if_neg (by omega), quotient, remainder, ofNat_of_isDigit digit, List.append_assoc,
      List.singleton_append]

theorem digits_of_isDigit {c : Char} (digit : isDigit c = true) : digits (c.toNat - 48) = [c] := by
  have range := toNat_of_isDigit digit
  rw [digits, if_pos (by omega), ofNat_of_isDigit digit]

end Numeral

namespace Json

/-- A row of digits that does not start with a zero for nothing is the numeral of what it denotes.
-/
theorem WholeDigits.digits_eq {cs : List Char} (whole : WholeDigits cs) :
    Numeral.digits (Numeral.natOfDigits cs) = cs := by
  obtain ⟨⟨nonempty, all⟩, zero⟩ := whole
  cases cs with
  | nil => exact absurd rfl nonempty
  | cons c rest =>
    have digit := all c List.mem_cons_self
    have range := Numeral.toNat_of_isDigit digit
    have first : Numeral.natOfDigits (c :: rest) = Numeral.append (c.toNat - 48) rest := by
      rw [Numeral.natOfDigits_eq]
      change Numeral.append (0 * 10 + (c.toNat - 48)) rest = _
      rw [Nat.zero_mul, Nat.zero_add]
    rw [first]
    by_cases isZero : c = '0'
    · subst isZero
      rw [List.tail_eq_of_cons_eq (zero rfl)]
      exact Numeral.digits_of_isDigit digit
    · have positive : 0 < c.toNat - 48 := by
        have different : c.toNat ≠ '0'.toNat := fun same => isZero (Char.toNat_inj.mp same)
        have code : '0'.toNat = 48 := rfl
        omega
      rw [Numeral.digits_append positive fun d member => all d (List.mem_cons_of_mem _ member),
        Numeral.digits_of_isDigit digit, List.singleton_append]

/-- The numeral of a number starts with a zero only if it is one. -/
theorem eq_zero_of_head_digits {n : Nat} (head : (Numeral.digits n).head? = some '0') :
    Numeral.digits n = ['0'] := by
  induction n using Numeral.digits.induct with
  | case1 n small =>
    rw [Numeral.digits, if_pos small] at head ⊢
    rw [Option.some.inj head]
  | case2 n large ih =>
    rw [Numeral.digits, if_neg large, List.head?_append,
      List.head?_eq_some_head (Numeral.digits_ne_nil _), Option.some_or,
      ← List.head?_eq_some_head] at head
    have none : n / 10 = 0 := by
      rw [← Numeral.natOfDigits_digits (n / 10), ih head]
      rfl
    omega

theorem wholeDigits_digits (n : Nat) : WholeDigits (Numeral.digits n) :=
  ⟨⟨Numeral.digits_ne_nil n, fun _ member => Numeral.isDigit_of_mem_digits member⟩,
    eq_zero_of_head_digits⟩

/-! ## Digits that fit a word -/

theorem absorbDigits_lt {n : Nat} (fits : n < 0x10000000000000000) (cs : List Char) :
    (absorbDigits n cs).1 < 0x10000000000000000 := by
  induction cs generalizing n with
  | nil => exact fits
  | cons c rest ih =>
    rw [absorbDigits]
    split
    · rename_i next
      exact ih next
    · exact fits

theorem absorbDigits_of_lt {n : Nat} {cs : List Char}
    (fits : Numeral.append n cs < 0x10000000000000000) :
    absorbDigits n cs = (Numeral.append n cs, []) := by
  induction cs generalizing n with
  | nil => rfl
  | cons c rest ih =>
    have next : n * 10 + (c.toNat - 48) < 0x10000000000000000 :=
      Nat.lt_of_le_of_lt (Numeral.le_append _ rest) fits
    rw [absorbDigits]
    rw [if_pos next]
    exact ih fits

theorem fst_absorbDigits {n : Nat} {cs : List Char} (all : (absorbDigits n cs).2 = []) :
    (absorbDigits n cs).1 = Numeral.append n cs := by
  induction cs generalizing n with
  | nil => rfl
  | cons c rest ih =>
    rw [absorbDigits] at all ⊢
    split at all
    · rename_i next
      rw [if_pos next]
      exact ih all
    · cases all

/-! ## Integers -/

/-- The literal of an integer. -/
def Literal.ofInt (i : Int) : Literal :=
  ⟨decide (i < 0), Numeral.digits i.natAbs, none, none⟩

theorem Literal.intDigits_eq (i : Int) :
    Numeral.intDigits i = signText (ofInt i).negative ++ ((ofInt i).whole ++ ([] ++ [])) := by
  unfold Numeral.intDigits ofInt signText
  rw [List.append_nil, List.append_nil]
  by_cases negative : i < 0
  · simp only [negative, if_true, decide_true, List.singleton_append]
  · simp only [negative, if_false, decide_false, Bool.false_eq_true, List.nil_append]

theorem Literal.spelled_ofInt_iff {i : Int} {text : List Char} :
    (ofInt i).Spelled text ↔ text = Numeral.intDigits i := by
  rw [intDigits_eq]
  constructor
  · rintro ⟨-, isFraction, isExponent⟩
    cases isFraction
    cases isExponent
    rfl
  · rintro rfl
    exact .parts (wholeDigits_digits _) .absent .absent

theorem Literal.number?_ofInt {i : Int} (least : -0x8000000000000000 ≤ i)
    (most : i < 0x10000000000000000) : (ofInt i).number? = some (.int i) := by
  have fits : Numeral.append 0 (Numeral.digits i.natAbs) < 0x10000000000000000 := by
    rw [← Numeral.natOfDigits_eq, Numeral.natOfDigits_digits]
    omega
  unfold number? ofInt
  dsimp only
  rw [absorbDigits_of_lt fits, ← Numeral.natOfDigits_eq, Numeral.natOfDigits_digits]
  simp only [List.isEmpty_nil, Option.isNone_none, and_self, if_true, decide_eq_true_eq]
  by_cases negative : i < 0
  · have nonzero : 0 < i.natAbs ∧ i.natAbs ≤ 0x8000000000000000 := by omega
    rw [if_pos negative, if_pos nonzero, Int.ofNat_natAbs_of_nonpos (Int.le_of_lt negative),
      Int.neg_neg]
  · rw [if_neg negative, Int.natAbs_of_nonneg (Int.not_lt.mp negative)]

/-- A literal that denotes an integer is that of the integer. -/
theorem Literal.eq_ofInt {l : Literal} {i : Int} (isWhole : WholeDigits l.whole)
    (value : l.number? = some (.int i)) :
    l = ofInt i ∧ -0x8000000000000000 ≤ i ∧ i < 0x10000000000000000 := by
  obtain ⟨negative, whole, fraction, exponent⟩ := l
  dsimp only at isWhole
  have fits := absorbDigits_lt (show 0 < 0x10000000000000000 by decide) whole
  unfold number? at value
  dsimp only at value
  split at value
  · rename_i plain
    obtain ⟨noneLeft, noFraction, noExponent⟩ := plain
    have digits : Numeral.digits (absorbDigits 0 whole).1 = whole := by
      rw [fst_absorbDigits (List.isEmpty_iff.mp noneLeft), ← Numeral.natOfDigits_eq]
      exact isWhole.digits_eq
    rw [Option.isNone_iff_eq_none.mp noFraction, Option.isNone_iff_eq_none.mp noExponent]
    split at value
    · rename_i isNegative
      split at value
      · rename_i range
        cases value
        have below : -((absorbDigits 0 whole).1 : Int) < 0 := by omega
        refine ⟨?_, by omega, by omega⟩
        rw [ofInt, isNegative, decide_eq_true below, Int.natAbs_neg, Int.natAbs_natCast, digits]
      · cases value
    · rename_i isPositive
      cases value
      have notBelow : ¬ ((absorbDigits 0 whole).1 : Int) < 0 := by omega
      refine ⟨?_, by omega, by omega⟩
      rw [ofInt, Bool.eq_false_iff.mpr isPositive, decide_eq_false notBelow, Int.natAbs_natCast,
        digits]
  · obtain ⟨_, -, isDouble⟩ := Option.map_eq_some_iff.mp value
    cases isDouble

/-! ## Reading -/

theorem wholeDigits_zero : WholeDigits ['0'] :=
  ⟨⟨List.cons_ne_nil _ _, fun _ member => List.mem_singleton.mp member ▸ rfl⟩, fun _ => rfl⟩

theorem Digits.append_ne {digits rest more : List Char} {c : Char} (isDigits : Digits digits)
    (other : Numeral.isDigit c = false) : digits ++ rest ≠ c :: more := by
  cases digits with
  | nil => exact absurd rfl isDigits.1
  | cons d _ =>
    intro same
    have digit := isDigits.2 d List.mem_cons_self
    rw [List.head_eq_of_cons_eq same, other] at digit
    cases digit

theorem digits1_append {digits rest : List Char} (isDigits : Digits digits)
    (ends : ∀ c ∈ rest.head?, Numeral.isDigit c = false) :
    digits1 (digits ++ rest) = some (digits, rest) := by
  have taken : (digits ++ rest).span Numeral.isDigit = (digits, rest) := by
    rw [List.span_eq_takeWhile_dropWhile, List.takeWhile_append_of_pos isDigits.2,
      List.dropWhile_append_of_pos isDigits.2]
    cases rest with
    | nil => rw [List.takeWhile_nil, List.dropWhile_nil, List.append_nil]
    | cons c more =>
      have other : ¬ Numeral.isDigit c = true := by
        rw [ends c rfl]
        exact Bool.false_ne_true
      rw [List.takeWhile_cons_of_neg other, List.dropWhile_cons_of_neg other, List.append_nil]
  unfold digits1
  rw [taken]
  cases digits with
  | nil => exact absurd rfl isDigits.1
  | cons c more => rfl

theorem digits_of_digits1 {cs digits rest : List Char} (read : digits1 cs = some (digits, rest)) :
    cs = digits ++ rest ∧ Digits digits := by
  unfold digits1 at read
  rw [List.span_eq_takeWhile_dropWhile] at read
  split at read
  · cases read
  · rename_i nonempty same
    cases read
    cases same
    exact ⟨List.takeWhile_append_dropWhile.symm, nonempty,
      fun c member => List.all_eq_true.mp List.all_takeWhile c member⟩

theorem WholeDigits.read {digits rest : List Char} (isWhole : WholeDigits digits)
    (ends : ∀ c ∈ rest.head?, Numeral.isDigit c = false) :
    wholeDigits (digits ++ rest) = some (digits, rest) := by
  cases digits with
  | nil => exact absurd rfl isWhole.1.1
  | cons c more =>
    by_cases isZero : c = '0'
    · subst isZero
      rw [List.tail_eq_of_cons_eq (isWhole.2 rfl)]
      rfl
    · rw [← digits1_append isWhole.1 ends, List.cons_append, wholeDigits]
      exact fun _ same => isZero (List.head_eq_of_cons_eq same)

theorem wholeDigits_sound {cs digits rest : List Char}
    (read : wholeDigits cs = some (digits, rest)) : cs = digits ++ rest ∧ WholeDigits digits := by
  unfold wholeDigits at read
  split at read
  · cases read
    exact ⟨rfl, wholeDigits_zero⟩
  · rename_i other
    obtain ⟨same, isDigits⟩ := digits_of_digits1 read
    refine ⟨same, isDigits, fun head => ?_⟩
    obtain ⟨more, starts⟩ := List.head?_eq_some_iff.mp head
    exact absurd (same.trans (by rw [starts]; rfl)) (other _)

/-- A text that does not go on with a number. -/
def Ends (rest : List Char) : Prop :=
  ∀ c ∈ rest.head?, Numeral.isDigit c = false ∧ c ≠ '.' ∧ c ≠ 'e' ∧ c ≠ 'E'

theorem FractionText.read {fraction : Option (List Char)} {text rest : List Char}
    (isFraction : FractionText fraction text)
    (ends : ∀ c ∈ rest.head?, Numeral.isDigit c = false ∧ c ≠ '.') :
    fractionDigits (text ++ rest) = some (fraction, rest) := by
  cases isFraction with
  | absent =>
    cases rest with
    | nil => rfl
    | cons c more =>
      rw [List.nil_append, fractionDigits]
      exact fun _ same => (ends c rfl).2 (List.head_eq_of_cons_eq same)
  | @present digits isDigits =>
    rw [List.cons_append, fractionDigits, digits1_append isDigits fun c head => (ends c head).1]
    rfl

theorem fractionText_of_read {cs rest : List Char} {fraction : Option (List Char)}
    (read : fractionDigits cs = some (fraction, rest)) :
    ∃ text, cs = text ++ rest ∧ FractionText fraction text := by
  unfold fractionDigits at read
  split at read
  · obtain ⟨⟨digits, after⟩, found, same⟩ := Option.map_eq_some_iff.mp read
    obtain ⟨split, isDigits⟩ := digits_of_digits1 found
    cases same
    refine ⟨_, ?_, .present isDigits⟩
    rw [split]
    rfl
  · cases read
    exact ⟨[], rfl, .absent⟩

theorem ExponentText.read {exponent : Option Int} {text rest : List Char}
    (isExponent : ExponentText exponent text) (ends : Ends rest) :
    exponentPart (text ++ rest) = some (exponent, rest) := by
  cases isExponent with
  | absent =>
    cases rest with
    | nil => rfl
    | cons c more =>
      have noMark : ¬ (c = 'e' ∨ c = 'E') := fun mark =>
        mark.elim (ends c rfl).2.2.1 (ends c rfl).2.2.2
      unfold exponentPart
      exact if_neg noMark
  | @bare mark digits isMark isDigits =>
    rw [List.cons_append, exponentPart, if_pos isMark]
    · simp only [digits1_append isDigits fun c head => (ends c head).1, Option.map_some]
    · exact fun _ => isDigits.append_ne (by decide)
    · exact fun _ => isDigits.append_ne (by decide)
  | @plus mark digits isMark isDigits =>
    rw [List.cons_append, List.cons_append, exponentPart, if_pos isMark]
    simp only [digits1_append isDigits fun c head => (ends c head).1, Option.map_some]
  | @minus mark digits isMark isDigits =>
    rw [List.cons_append, List.cons_append, exponentPart, if_pos isMark]
    simp only [digits1_append isDigits fun c head => (ends c head).1, Option.map_some]

theorem exponentText_of_read {cs rest : List Char} {exponent : Option Int}
    (read : exponentPart cs = some (exponent, rest)) :
    ∃ text, cs = text ++ rest ∧ ExponentText exponent text := by
  unfold exponentPart at read
  split at read
  · split at read
    · rename_i isMark
      split at read
      · obtain ⟨⟨digits, after⟩, found, same⟩ := Option.map_eq_some_iff.mp read
        obtain ⟨split, isDigits⟩ := digits_of_digits1 found
        cases same
        refine ⟨_, ?_, .minus isMark isDigits⟩
        rw [split]
        rfl
      · obtain ⟨⟨digits, after⟩, found, same⟩ := Option.map_eq_some_iff.mp read
        obtain ⟨split, isDigits⟩ := digits_of_digits1 found
        cases same
        refine ⟨_, ?_, .plus isMark isDigits⟩
        rw [split]
        rfl
      · obtain ⟨⟨digits, after⟩, found, same⟩ := Option.map_eq_some_iff.mp read
        obtain ⟨split, isDigits⟩ := digits_of_digits1 found
        cases same
        refine ⟨_, ?_, .bare isMark isDigits⟩
        rw [split]
        rfl
    · cases read
      exact ⟨[], rfl, .absent⟩
  · cases read
    exact ⟨[], rfl, .absent⟩

theorem ExponentText.ends {exponent : Option Int} {text rest : List Char}
    (isExponent : ExponentText exponent text) (ends : Ends rest) :
    ∀ c ∈ (text ++ rest).head?, Numeral.isDigit c = false ∧ c ≠ '.' := by
  have mark {c : Char} (isMark : c = 'e' ∨ c = 'E') : Numeral.isDigit c = false ∧ c ≠ '.' := by
    rcases isMark with rfl | rfl <;> decide
  cases isExponent with
  | absent => exact fun c head => ⟨(ends c head).1, (ends c head).2.1⟩
  | bare isMark _ => exact fun c head => Option.some.inj head ▸ mark isMark
  | plus isMark _ => exact fun c head => Option.some.inj head ▸ mark isMark
  | minus isMark _ => exact fun c head => Option.some.inj head ▸ mark isMark

theorem FractionText.ends {fraction : Option (List Char)} {text rest : List Char}
    (isFraction : FractionText fraction text)
    (ends : ∀ c ∈ rest.head?, Numeral.isDigit c = false) :
    ∀ c ∈ (text ++ rest).head?, Numeral.isDigit c = false := by
  cases isFraction with
  | absent => exact ends
  | present _ => exact fun c head => Option.some.inj head ▸ by decide

theorem unsignedNumber_read {l : Literal} {fraction exponent rest : List Char} {n : JsonNumber}
    (isWhole : WholeDigits l.whole) (isFraction : FractionText l.fraction fraction)
    (isExponent : ExponentText l.exponent exponent) (value : l.number? = some n)
    (ends : Ends rest) :
    unsignedNumber l.negative (l.whole ++ (fraction ++ (exponent ++ rest))) = some (n, rest) := by
  have afterFraction := isExponent.ends ends
  have afterWhole := isFraction.ends fun c head => (afterFraction c head).1
  rw [unsignedNumber, isWhole.read afterWhole]
  dsimp only
  rw [isFraction.read afterFraction]
  dsimp only
  rw [isExponent.read ends]
  dsimp only
  rw [value]

/-- Every spelling of a literal is read. -/
theorem Literal.Spelled.read {l : Literal} {text rest : List Char} {n : JsonNumber}
    (spelled : l.Spelled text) (value : l.number? = some n) (ends : Ends rest) :
    number (text ++ rest) = some (n, rest) := by
  obtain ⟨isWhole, isFraction, isExponent⟩ := spelled
  have read := unsignedNumber_read isWhole isFraction isExponent value ends
  rw [List.append_assoc, List.append_assoc, List.append_assoc]
  cases negative : l.negative with
  | true =>
    rw [negative] at read
    exact read
  | false =>
    rw [negative] at read
    rw [signText, if_neg Bool.false_ne_true, List.nil_append, ← read, number]
    exact fun _ => isWhole.1.append_ne (by decide)

theorem spelled_of_unsignedNumber {negative : Bool} {cs rest : List Char} {n : JsonNumber}
    (read : unsignedNumber negative cs = some (n, rest)) :
    ∃ (l : Literal) (text : List Char), signText negative ++ cs = text ++ rest ∧
      l.Spelled text ∧ l.number? = some n := by
  unfold unsignedNumber at read
  split at read
  · cases read
  · rename_i whole afterWhole foundWhole
    obtain ⟨sameWhole, isWhole⟩ := wholeDigits_sound foundWhole
    split at read
    · cases read
    · rename_i fraction afterFraction foundFraction
      obtain ⟨fractionText, sameFraction, isFraction⟩ := fractionText_of_read foundFraction
      split at read
      · cases read
      · rename_i exponent afterExponent foundExponent
        obtain ⟨exponentText, sameExponent, isExponent⟩ := exponentText_of_read foundExponent
        split at read
        · cases read
        · rename_i n value
          cases read
          refine ⟨⟨negative, whole, fraction, exponent⟩, _, ?_,
            .parts isWhole isFraction isExponent, value⟩
          rw [sameWhole, sameFraction, sameExponent]
          simp only [List.append_assoc]

/-- What is read as a number spells a literal. -/
theorem spelled_of_number {cs rest : List Char} {n : JsonNumber}
    (read : number cs = some (n, rest)) :
    ∃ (l : Literal) (text : List Char), cs = text ++ rest ∧ l.Spelled text ∧
      l.number? = some n := by
  unfold number at read
  split at read
  · exact spelled_of_unsignedNumber read
  · exact spelled_of_unsignedNumber read

/-! ## Numbers as values -/

theorem number_intDigits {i : Int} {rest : List Char} (least : -0x8000000000000000 ≤ i)
    (most : i < 0x10000000000000000) (ends : Ends rest) :
    number (Numeral.intDigits i ++ rest) = some (.int i, rest) :=
  (Literal.spelled_ofInt_iff.mpr rfl).read (Literal.number?_ofInt least most) ends

theorem denotes_of_number {cs rest : List Char} {n : JsonNumber}
    (read : number cs = some (n, rest)) (depth : Nat) :
    ∃ text, cs = text ++ rest ∧ Denotes anyNumber depth text (.value (.num n)) := by
  obtain ⟨l, text, same, spelled, value⟩ := spelled_of_number read
  refine ⟨text, same, ?_⟩
  cases n with
  | int i =>
    have isWhole : WholeDigits l.whole := by
      obtain ⟨isWhole, -, -⟩ := spelled
      exact isWhole
    obtain ⟨rfl, least, most⟩ := Literal.eq_ofInt isWhole value
    rw [Literal.spelled_ofInt_iff.mp spelled]
    exact .int least most
  | double d => exact .double spelled value trivial

end Json

end Gatehouse
