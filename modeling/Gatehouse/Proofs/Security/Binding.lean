import Gatehouse.Proofs.Security.Acceptance

/-!
What a signature binds.

The name of a module may hold colons and digits, so the text that is signed has no fixed places. But
a canonical numeral has no colon: whatever the name is, it ends at the last colon of the text, and
the rest is the only numeral of its time. So the text tells the module and the time, and what is
accepted for two modules, or for two times, shows two texts with one keyed hash.
-/

namespace Gatehouse

theorem utf8_inj {a b : String} : utf8 a = utf8 b ↔ a = b := by
  refine ⟨fun same => ?_, congrArg utf8⟩
  have texts := congrArg Bytes.text? same
  rw [Bytes.text?_utf8, Bytes.text?_utf8, Option.some.injEq] at texts
  exact texts

theorem Numeral.intDigits_inj {i j : Int} : intDigits i = intDigits j ↔ i = j := by
  refine ⟨fun same => ?_, congrArg intDigits⟩
  have numbers := congrArg int? same
  rw [int?_intDigits, int?_intDigits, Option.some.injEq] at numbers
  exact numbers

/-- Two messages with the same hash under a key. -/
def Hmac.Collide (key first second : Bytes) : Prop :=
  first ≠ second ∧ mac key first = mac key second

namespace Signature

/-! ## What is signed -/

theorem subject_inj {module other : String} {time moment : Int} :
    subject module time = subject other moment ↔ module = other ∧ time = moment := by
  constructor
  · intro same
    have parts := congrArg splitLastColon same
    rw [subject, subject, splitLastColon_append (Numeral.colon_notMem_intDigits time),
      splitLastColon_append (Numeral.colon_notMem_intDigits moment), Option.some.injEq,
      Prod.mk.injEq] at parts
    exact ⟨String.toList_inj.mp parts.1, Numeral.intDigits_inj.mp parts.2⟩
  · rintro ⟨rfl, rfl⟩
    rfl

/-- The bytes that are signed for a module at a time. -/
def message (module : String) (time : Int) : Bytes :=
  utf8 (String.ofList (subject module time))

theorem mac_eq (secret module : String) (time : Int) :
    mac secret module time = Hmac.mac (utf8 secret) (message module time) := rfl

theorem message_inj {module other : String} {time moment : Int} :
    message module time = message other moment ↔ module = other ∧ time = moment := by
  rw [message, message, utf8_inj, String.ofList_inj, subject_inj]

/-! ## What is presented -/

/-- A presented text spells a signature and the time that it is for. -/
def Spells (presented : String) (signature : Bytes) (time : Int) : Prop :=
  ∃ digits numeral, splitLastColon presented.toList = some (digits, numeral) ∧
    Hex.decode digits = some signature ∧ Numeral.int64? numeral = some time

theorem Spells.unique {presented : String} {signature other : Bytes} {time moment : Int}
    (spelled : Spells presented signature time) (also : Spells presented other moment) :
    signature = other ∧ time = moment := by
  obtain ⟨digits, numeral, parts, decoded, read⟩ := spelled
  obtain ⟨_, _, sameParts, decodedToo, readToo⟩ := also
  rw [parts] at sameParts
  cases sameParts
  rw [decoded] at decodedToo
  rw [read] at readToo
  cases decodedToo
  cases readToo
  exact ⟨rfl, rfl⟩

/-- A text is accepted that spells the signature for the module at a time near enough. -/
theorem verify_iff {secret module presented : String} {maxAge : Nat} {now : Int} :
    verify secret module presented maxAge now = true ↔
      secret ≠ "" ∧ ∃ time, isCurrent maxAge now time = true ∧
        Spells presented (mac secret module time) time := by
  rw [← String.isEmpty_eq_false_iff, verify]
  cases secret.isEmpty with
  | true => exact iff_of_false Bool.false_ne_true fun wrong => Bool.noConfusion wrong.1
  | false =>
    simp only [Bool.false_eq_true, if_false, true_and, Spells]
    cases parts : splitLastColon presented.toList with
    | none =>
      refine iff_of_false Bool.false_ne_true ?_
      rintro ⟨time, -, _, _, same, -, -⟩
      cases same
    | some both =>
      obtain ⟨digits, numeral⟩ := both
      dsimp only
      cases read : Numeral.int64? numeral with
      | none =>
        refine iff_of_false Bool.false_ne_true ?_
        rintro ⟨time, -, _, _, same, -, readToo⟩
        cases same
        rw [read] at readToo
        cases readToo
      | some time =>
        rw [Bool.and_eq_true, beq_iff_eq]
        constructor
        · rintro ⟨current, decoded⟩
          exact ⟨time, current, digits, numeral, rfl, decoded, read⟩
        · rintro ⟨moment, current, _, _, same, decoded, readToo⟩
          cases same
          rw [read] at readToo
          cases readToo
          exact ⟨current, decoded⟩

/-- What is signed tells the module and the time, whatever the name of the module holds. If a
signature is accepted for a module at a time and, in whatever spelling, for a module at a time
again, then these are the same module and the same time, or the two messages that are signed for
them are different and have the same hash under the secret. -/
theorem signature_binds {secret module other first second : String} {signature : Bytes}
    {time moment : Int} {maxAge otherAge : Nat} {now later : Int}
    (spelled : Spells first signature time) (spelledAgain : Spells second signature moment)
    (accepted : verify secret module first maxAge now = true)
    (acceptedAgain : verify secret other second otherAge later = true) :
    (∀ a b s t, message a s = message b t → a = b ∧ s = t) ∧
    (module = other ∧ time = moment ∨
      Hmac.Collide (utf8 secret) (message module time) (message other moment)) := by
  refine ⟨fun a b s t => message_inj.mp, ?_⟩
  obtain ⟨-, _, -, spellsMac⟩ := verify_iff.mp accepted
  obtain ⟨-, _, -, spellsOtherMac⟩ := verify_iff.mp acceptedAgain
  obtain ⟨isMac, rfl⟩ := spelled.unique spellsMac
  obtain ⟨isOtherMac, rfl⟩ := spelledAgain.unique spellsOtherMac
  have sameHash : Hmac.mac (utf8 secret) (message module time) =
      Hmac.mac (utf8 secret) (message other moment) := by
    rw [← mac_eq, ← mac_eq, ← isMac, isOtherMac]
  by_cases same : message module time = message other moment
  · exact Or.inl (message_inj.mp same)
  · exact Or.inr ⟨same, sameHash⟩

theorem spells_of_numeral {numeral : List Char} {time : Int} (plain : ':' ∉ numeral)
    (read : Numeral.int64? numeral = some time) (signature : Bytes) :
    Spells (String.ofList (Hex.encode signature ++ ':' :: numeral)) signature time := by
  refine ⟨Hex.encode signature, numeral, ?_, Hex.decode_encode signature, read⟩
  rw [String.toList_ofList, splitLastColon_append plain]

/-- A module whose name looks like a name with a time, and a time that is spelled in two ways. -/
theorem signature_binds_spelled :
    let signature := mac "s3cret" "a:1" 5
    let text (numeral : String) := String.ofList (Hex.encode signature ++ ':' :: numeral.toList)
    (verify "s3cret" "a:1" (text "5") 60 0 = true ∧
      verify "s3cret" "a:1" (text "+05") 60 9 = true) ∧
      ("a:1" = "a:1" ∧ (5 : Int) = 5 ∨
        Hmac.Collide (utf8 "s3cret") (message "a:1" 5) (message "a:1" 5)) := by
  intro signature text
  have spelled : Spells (text "5") signature 5 :=
    spells_of_numeral (by decide) (by decide +kernel) signature
  have spelledAgain : Spells (text "+05") signature 5 :=
    spells_of_numeral (by decide) (by decide +kernel) signature
  have accepted : verify "s3cret" "a:1" (text "5") 60 0 = true :=
    verify_iff.mpr ⟨by decide, 5, by decide, spelled⟩
  have acceptedAgain : verify "s3cret" "a:1" (text "+05") 60 9 = true :=
    verify_iff.mpr ⟨by decide, 5, by decide, spelledAgain⟩
  exact ⟨⟨accepted, acceptedAgain⟩,
    (signature_binds spelled spelledAgain accepted acceptedAgain).2⟩

end Signature

end Gatehouse
