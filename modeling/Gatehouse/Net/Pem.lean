import Gatehouse.Net.PrivateKey

/-!
Certificates and keys written as text.

An item stands between a line that begins it and one that ends it, both with its label; the lines
between are its bytes in base 64. Lines outside of items, and items with other labels, are passed
over. An item that is damaged does not keep the following ones from being read.
-/

namespace Gatehouse

namespace Pem

/-- What an item is. -/
inductive Kind where
  | certificate
  | privateKey (form : PrivateKey.Form)
  | other
  deriving DecidableEq, Repr

structure Item where
  kind : Kind
  bytes : Bytes
  deriving DecidableEq, Repr

/-- The labels that are known. -/
def kinds : List (String × Kind) := [
  ("CERTIFICATE", .certificate), ("PRIVATE KEY", .privateKey .wrapped),
  ("RSA PRIVATE KEY", .privateKey .rsa), ("EC PRIVATE KEY", .privateKey .curve),
  ("PUBLIC KEY", .other), ("X509 CRL", .other), ("CERTIFICATE REQUEST", .other),
  ("ECHCONFIG", .other)]

def kind? (label : Bytes) : Option Kind :=
  (kinds.find? fun k => utf8 k.1 == label).map (·.2)

/-! ## Base 64 -/

def isBlank (b : UInt8) : Bool := b == 32 || (9 ≤ b && b ≤ 13)

/-- The value of a digit. -/
def digit? (b : UInt8) : Option Nat :=
  if 65 ≤ b && b ≤ 90 then some (b.toNat - 65)
  else if 97 ≤ b && b ≤ 122 then some (b.toNat - 71)
  else if 48 ≤ b && b ≤ 57 then some (b.toNat + 4)
  else if b == 43 then some 62
  else if b == 47 then some 63
  else none

/-- The bytes of digits, four for three bytes; the last group may stand for one or two, and its bits
beyond them do not count. -/
def bytes? : List Nat → Option Bytes
  | [] => some []
  | [a, b] => some [UInt8.ofNat (a * 4 + b / 16)]
  | [a, b, c] => some [UInt8.ofNat (a * 4 + b / 16), UInt8.ofNat (b % 16 * 16 + c / 4)]
  | a :: b :: c :: d :: rest => do
    let later ← bytes? rest
    some (UInt8.ofNat (a * 4 + b / 16) :: UInt8.ofNat (b % 16 * 16 + c / 4) ::
      UInt8.ofNat (c % 4 * 64 + d) :: later)
  | [_] => none

/-- Read base 64. Padding makes the last group full or is left out. Blanks do not count. -/
def decode? (text : Bytes) : Option Bytes := do
  let text := text.filter fun b => ! isBlank b
  let (body, padding) := text.span (· != 61)
  if padding.any (· != 61) || padding.length > 2 ||
      (! padding.isEmpty && text.length % 4 ≠ 0) then none
  else
    let digits ← body.mapM digit?
    bytes? digits

/-! ## Items -/

/-- The lines of a text, each with the character that ends it. -/
def lines (text : Bytes) : List Bytes :=
  let step (b : UInt8) (lines : List Bytes) : List Bytes :=
    if b == 10 || b == 13 then [b] :: lines
    else
      match lines with
      | line :: rest => (b :: line) :: rest
      | [] => [[b]]
  text.foldr step []

/-- The label in a line that begins an item, if five dashes close it. -/
def label? (line : Bytes) : Option Bytes :=
  let isEnd (b : UInt8) : Bool := b == 10 || b == 13 || b == 32
  let reversed := line.reverse
  let tail := reversed.takeWhile fun b => isEnd b || b == 45
  let dashes := tail.filter (· == 45)
  let closing := (tail.reverse.dropWhile isEnd).length
  if dashes.length = 5 then some ((line.take (line.length - closing)).drop 11) else none

/-- An item that has begun: its label, and its text so far. -/
structure Open where
  label : Bytes
  text : Bytes

def beginMark : Bytes := utf8 "-----BEGIN "

def endMark (label : Bytes) : Bytes := utf8 "-----END " ++ label ++ utf8 "-----"

/-- The items in lines; nothing for one that is damaged. -/
def itemsFrom (current : Option Open) : List Bytes → List (Option Item)
  | [] => if current.isSome then [none] else []
  | line :: rest =>
    if beginMark.isPrefixOf line then
      match label? line with
      | none => none :: itemsFrom none rest
      | some label => itemsFrom (some ⟨label, (current.map (·.text)).getD []⟩) rest
    else
      match current with
      | none => itemsFrom none rest
      | some item =>
        if (endMark item.label).isPrefixOf line then
          match kind? item.label with
          | some kind => (decode? item.text).map (Item.mk kind) :: itemsFrom none rest
          | none => itemsFrom none rest
        else itemsFrom (some { item with text := item.text ++ line }) rest

/-- The items in a text; nothing for one that is damaged. -/
def items (text : Bytes) : List (Option Item) :=
  itemsFrom none (lines text)

/-- The certificates in a text without damaged items. -/
def certificates? (text : Bytes) : Option (List Bytes) := do
  let all ← (items text).mapM id
  some ((all.filter fun i => i.kind == .certificate).map (·.bytes))

/-- The key that an item is, with the form that its label promises. -/
def Item.privateKey? (item : Item) : Option (PrivateKey.Form × Bytes) :=
  match item.kind with
  | .privateKey form => some (form, item.bytes)
  | _ => none

/-- The first private key in a text: damage before it is an error. -/
def privateKey? (text : Bytes) : Option (Option (PrivateKey.Form × Bytes)) :=
  let rec find : List (Option Item) → Option (Option (PrivateKey.Form × Bytes))
    | [] => some none
    | none :: _ => none
    | some item :: rest => if item.privateKey?.isSome then some item.privateKey? else find rest
  find (items text)

/-- All private keys in a text that are not damaged. -/
def privateKeys (text : Bytes) : List Bytes :=
  ((items text).filterMap id).filterMap fun item => item.privateKey?.map (·.2)

end Pem

end Gatehouse
