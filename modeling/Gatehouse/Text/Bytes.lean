/-!
Byte strings and the text they spell in UTF-8.

A body, a file or a wire message is a list of bytes. `Bytes.text?` reads such a list as text and
refuses ill-formed UTF-8; `Bytes.lossyText` reads any list and puts U+FFFD in place of each
maximal ill-formed part.
-/

namespace Gatehouse

/-- A string of bytes. -/
abbrev Bytes := List UInt8

/-- The UTF-8 bytes of a text. -/
def utf8 (s : String) : Bytes :=
  s.toByteArray.data.toList

namespace Bytes

/-- Whether there are at least `n` bytes. No more than `n` of them are looked at. -/
def atLeast : (n : Nat) → Bytes → Bool
  | 0, _ => true
  | _ + 1, [] => false
  | n + 1, _ :: rest => atLeast n rest

@[simp] theorem atLeast_iff {n : Nat} {bytes : Bytes} : atLeast n bytes ↔ n ≤ bytes.length := by
  induction n generalizing bytes with
  | zero => simp [atLeast]
  | succ n ih => cases bytes <;> simp [atLeast, ih]

/-- The text whose UTF-8 bytes these are, if there is one. -/
def text? (bytes : Bytes) : Option String :=
  String.fromUTF8? ⟨bytes.toArray⟩

@[simp] theorem text?_utf8 (s : String) : text? (utf8 s) = some s := by
  have : (⟨s.toByteArray.data.toList.toArray⟩ : ByteArray) = s.toByteArray := by simp
  simp [text?, utf8, String.fromUTF8?, s.isValidUTF8, String.fromUTF8]

theorem eq_utf8_of_text? {bytes : Bytes} {s : String} (h : text? bytes = some s) :
    bytes = utf8 s := by
  simp only [text?, String.fromUTF8?] at h
  split at h
  · cases h
    simp [utf8, String.fromUTF8]
  · cases h

/-- Whether a byte continues a UTF-8 sequence. -/
def isContinuation (b : UInt8) : Bool :=
  0x80 ≤ b && b ≤ 0xBF

/-- The range of the second byte of a UTF-8 sequence that starts with `lead`, and the number of
bytes that follow the lead. A lead that starts no sequence has none. -/
def followers? (lead : UInt8) : Option (UInt8 × UInt8 × Nat) :=
  if 0xC2 ≤ lead && lead ≤ 0xDF then some (0x80, 0xBF, 1)
  else if lead == 0xE0 then some (0xA0, 0xBF, 2)
  else if lead == 0xED then some (0x80, 0x9F, 2)
  else if 0xE1 ≤ lead && lead ≤ 0xEF then some (0x80, 0xBF, 2)
  else if lead == 0xF0 then some (0x90, 0xBF, 3)
  else if lead == 0xF4 then some (0x80, 0x8F, 3)
  else if 0xF1 ≤ lead && lead ≤ 0xF3 then some (0x80, 0xBF, 3)
  else none

/-- The bytes after `lead` that belong to its sequence: the longest beginning of `rest` that some
well-formed sequence with this lead has, and whether it is the whole sequence. -/
def sequenceTail (lead : UInt8) (rest : Bytes) : Nat × Bool :=
  match followers? lead with
  | none => (0, false)
  | some (low, high, count) =>
    match rest with
    | [] => (0, false)
    | second :: more =>
      if low ≤ second && second ≤ high then
        let taken := 1 + ((more.take (count - 1)).takeWhile isContinuation).length
        (taken, taken == count)
      else (0, false)

/-- The code point that a well-formed sequence of bytes spells. -/
def codePoint (lead : UInt8) (tail : Bytes) : Nat :=
  let start :=
    match tail.length with
    | 1 => lead.toNat % 0x20
    | 2 => lead.toNat % 0x10
    | _ => lead.toNat % 0x08
  tail.foldl (fun acc b => acc * 64 + b.toNat % 64) start

/-- The characters of a byte string, with U+FFFD for each maximal ill-formed part, in front of
which stand the characters read so far, last first. -/
def lossyChars (seen : List Char) : Bytes → List Char
  | [] => seen.reverse
  | lead :: rest =>
    if lead < 0x80 then lossyChars (Char.ofNat lead.toNat :: seen) rest
    else
      match sequenceTail lead rest with
      | (taken, complete) =>
        let c := if complete then Char.ofNat (codePoint lead (rest.take taken)) else '\uFFFD'
        lossyChars (c :: seen) (rest.drop taken)
  termination_by bytes => bytes.length

/-- The text of a byte string, with U+FFFD for each maximal ill-formed part. -/
def lossyText (bytes : Bytes) : String :=
  String.ofList (lossyChars [] bytes)

end Bytes

end Gatehouse
