import Gatehouse.Request.Headers
import Gatehouse.Text.Blank
import Gatehouse.Upload.MediaType
import Gatehouse.Upload.Source

/-!
Multipart bodies: `multipart/form-data`.

Parts stand between lines with the boundary, each with a head of header fields and, behind a blank
line, its data. `Multipart.read` returns the parts as far as they can be read; a part whose data
does not end is the last one and its only frame is a failure.
-/

namespace Gatehouse.Upload.Multipart

/-! ## Searching -/

/-- Split a byte string in front of the first place where `pattern` stands. -/
def splitAt? (pattern : Bytes) (seen : Bytes) : Bytes → Option (Bytes × Bytes)
  | [] => if pattern.isEmpty then some (seen.reverse, []) else none
  | b :: rest =>
    if pattern.isPrefixOf (b :: rest) then some (seen.reverse, b :: rest)
    else splitAt? pattern (b :: seen) rest

/-- What a byte string has behind `start`, if it begins with it. -/
def strip? (start bytes : Bytes) : Option Bytes :=
  if start.isPrefixOf bytes then some (bytes.drop start.length) else none

def crlf : Bytes := [13, 10]

def dashes : Bytes := [45, 45]

/-! ## The head of a part -/

/-- Bytes of the name of a header field. -/
def isNameByte (b : UInt8) : Bool :=
  b < 0x80 && MediaType.isToken (Char.ofNat b.toNat)

/-- Bytes of the value of a header field. -/
def isValueByte (b : UInt8) : Bool :=
  (0x20 ≤ b && b != 0x7F) || b == 0x09

def isBlankByte (b : UInt8) : Bool :=
  b == 0x20 || b == 0x09

/-- The end of a line. -/
def lineEnd? : Bytes → Option Bytes
  | 13 :: 10 :: rest => some rest
  | 10 :: rest => some rest
  | _ => none

/-- The header fields up to the first empty line, at most `limit` of them. -/
def fields? : (limit : Nat) → Bytes → Option Headers
  | limit, bytes =>
    match lineEnd? bytes with
    | some _ => some []
    | none =>
      match limit with
      | 0 => none
      | limit + 1 =>
        let (name, rest) := bytes.span isNameByte
        match rest with
        | 58 :: rest =>
          if name.isEmpty then none
          else
            let (value, rest) := (rest.dropWhile isBlankByte).span isValueByte
            match lineEnd? rest with
            | none => none
            | some rest =>
              let field := (Headers.lower (String.ofList (name.map fun b => Char.ofNat b.toNat)),
                Text.trimEndBy isBlankByte value)
              (fields? limit rest).map (field :: ·)
        | _ => none

/-- How many header fields a part may have. -/
def maxFields : Nat := 32

/-- Skip white space and then a byte that has to be there. -/
def skipTo? (b : UInt8) (bytes : Bytes) : Option Bytes :=
  match bytes.dropWhile Text.isAsciiBlank with
  | c :: rest => if c = b then some rest else none
  | [] => none

/-- The bytes of a quoted text up to the first quote without a backslash in front of it. -/
def quoted? (seen : Bytes) : Bytes → Option Bytes
  | [] => none
  | 34 :: rest =>
    if seen.head? = some 92 then quoted? (34 :: seen) rest else some seen.reverse
  | b :: rest => quoted? (b :: seen) rest

/-- A quoted text with every backslash in front of a quote taken out. -/
def unescape : Bytes → Bytes
  | 92 :: 34 :: rest => 34 :: unescape rest
  | b :: rest => b :: unescape rest
  | [] => []

/-- The value of a parameter, behind its name. -/
def parameterValue? (bytes : Bytes) : Option String := do
  let rest ← skipTo? 61 bytes
  match skipTo? 34 rest with
  | some rest => (quoted? [] rest).bind fun text => Bytes.text? (unescape text)
  | none =>
    Bytes.text? ((rest.dropWhile Text.isAsciiBlank).takeWhile fun b => b != 59 && b != 32)

/-- The value of the first parameter called `name`: the name at the beginning, or behind white space
or a semicolon. `fuel` is more than the number of bytes. -/
def parameter? (name : Bytes) : (fuel : Nat) → (before : Option UInt8) → Bytes → Option String
  | 0, _, _ => none
  | fuel + 1, before, bytes =>
    match bytes with
    | [] => none
    | b :: rest =>
      match strip? name (b :: rest) with
      | some after =>
        if before.all fun c => Text.isAsciiBlank c || c == 59 then parameterValue? after
        else parameter? name fuel none after
      | none => parameter? name fuel (some b) rest

/-- The name of the file that a part holds. Of a field that repeats, the last one counts. -/
def filename? (head : Headers) : Option String :=
  (head.last? "content-disposition").bind fun value =>
    parameter? (utf8 "filename") (value.length + 1) none value

/-! ## Parts -/

/-- The reason that is given for every part that cannot be read. -/
def unreadable : String := "Error parsing `multipart/form-data` request"

/-- The parts from a boundary on, and the failure behind the last one that can be read. `fuel` is
more than the number of bytes. -/
def parts (boundary : Bytes) : (fuel : Nat) → Bytes → List Part × Option String
  | 0, _ => ([], some unreadable)
  | fuel + 1, bytes =>
    match strip? (dashes ++ boundary) bytes with
    | none => ([], some unreadable)
    | some rest =>
      if rest.length < 2 then ([], some unreadable)
      else if dashes.isPrefixOf rest then ([], none)
      else
        match strip? crlf (rest.dropWhile isBlankByte) with
        | none => ([], some unreadable)
        | some rest =>
          match splitAt? (crlf ++ crlf) [] rest with
          | none => ([], some unreadable)
          | some (head, rest) =>
            match fields? maxFields (head ++ crlf ++ crlf) with
            | none => ([], some unreadable)
            | some fields =>
              let filename := filename? fields
              match splitAt? (crlf ++ dashes ++ boundary) [] (rest.drop 4) with
              | none => ([⟨filename, [.failed unreadable]⟩], some unreadable)
              | some (data, rest) =>
                let (more, failure) := parts boundary fuel (rest.drop 2)
                (⟨filename, [.data data]⟩ :: more, failure)

/-- Read a body. A failure among its frames comes before all parts. -/
def read (boundary : String) (frames : List Frame) : Source :=
  match content frames with
  | .error _ => .multipart [] (some unreadable)
  | .ok bytes =>
    let boundary := utf8 boundary
    match splitAt? (dashes ++ boundary) [] bytes with
    | none => .multipart [] (some unreadable)
    | some (_, rest) =>
      let (parts, failure) := parts boundary (rest.length + 1) rest
      .multipart parts failure

end Gatehouse.Upload.Multipart
