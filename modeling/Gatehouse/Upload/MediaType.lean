import Gatehouse.Request.Headers

/-!
Media types with parameters, as far as multipart bodies need them.
-/

namespace Gatehouse.Upload

/-- A media type: its two names in lower case, and its parameters in order, with their names in
lower case. A suffix of the second name, such as `+json`, is not part of it. -/
structure MediaType where
  type : String
  subtype : String
  params : List (String × String) := []
  deriving DecidableEq, Repr, Inhabited

namespace MediaType

/-- Characters of the names and of values without quotes. -/
def isToken (c : Char) : Bool :=
  ('a' ≤ c && c ≤ 'z') || ('A' ≤ c && c ≤ 'Z') || ('0' ≤ c && c ≤ '9') ||
    "!#$%&'*+-.^_`|~".toList.contains c

/-- Characters of values between quotes. -/
def isQuoted (c : Char) : Bool :=
  32 ≤ c.toNat && c.toNat ≠ 127 && c ≠ '"'

/-- The text up to a closing quote, and the characters behind it. A quote that comes first belongs
to the text, so the text is never empty. -/
def quotedText? : List Char → Option (List Char × List Char)
  | first :: rest =>
    let (text, rest) := rest.span isQuoted
    match rest with
    | '"' :: rest =>
      if first = '"' ∨ isQuoted first then some (first :: text, rest) else none
    | _ => none
  | [] => none

/-- The value of a parameter and the characters behind it: a token that a semicolon or the end
follows, or a quoted text. Only the last value may be empty. -/
def value? (cs : List Char) : Option (String × List Char) :=
  match cs with
  | '"' :: rest =>
    match quotedText? rest with
    | some (text, rest) =>
      match rest.dropWhile (· == ' ') with
      | [] => some (String.ofList text, [])
      | ';' :: rest => some (String.ofList text, rest)
      | _ => none
    | none => none
  | cs =>
    let (text, rest) := cs.span isToken
    match rest with
    | [] => some (String.ofList text, [])
    | ';' :: rest => if text.isEmpty then none else some (String.ofList text, rest)
    | _ => none

/-- The parameters behind a semicolon. `fuel` is more than the number of characters. -/
def params? : (fuel : Nat) → List Char → Option (List (String × String))
  | 0, _ => none
  | fuel + 1, cs =>
    match cs with
    | [] => some []
    | ' ' :: rest => params? fuel rest
    | cs =>
      let (name, rest) := cs.span isToken
      match rest with
      | '=' :: rest =>
        if name.isEmpty then none
        else
          match value? rest with
          | some (value, rest) =>
            (params? fuel rest).map fun more => (Headers.lower (String.ofList name), value) :: more
          | none => none
      | _ => none

/-- A second name without its suffix, which starts at the last plus sign that is not in front. -/
def withoutSuffix (name : List Char) : List Char :=
  match name.reverse.dropWhile (· != '+') with
  | _ :: c :: before => (c :: before).reverse
  | _ => name

/-- Read a media type. -/
def parse? (text : String) : Option MediaType :=
  let (type, rest) := text.toList.span isToken
  match rest with
  | '/' :: rest =>
    let (subtype, rest) := rest.span isToken
    let names (params : List (String × String)) : MediaType :=
      ⟨Headers.lower (String.ofList type),
        Headers.lower (String.ofList (withoutSuffix subtype)), params⟩
    if type.isEmpty || subtype.isEmpty then none
    else
      match rest with
      | [] => some (names [])
      | ';' :: rest => (params? (rest.length + 1) rest).map names
      | _ => none
  | _ => none

/-- The boundary of a multipart form. -/
def boundary? (m : MediaType) : Option String :=
  if m.type = "multipart" ∧ m.subtype = "form-data" then m.params.lookup "boundary" else none

/-- The media type that header fields announce for a body. -/
def ofHeaders? (headers : Headers) : Option MediaType :=
  (headers.raw? "content-type").bind parse?

end MediaType

end Gatehouse.Upload
