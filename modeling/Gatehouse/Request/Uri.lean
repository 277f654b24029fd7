import Gatehouse.Text.Bytes

/-!
The target of a request line: its path and its query.

A target is a path with an optional query and an optional fragment, the same behind a scheme and an
authority, an authority alone, or a star. Nothing is decoded; the readers only decide which
characters may stand where and drop the fragment.
-/

namespace Gatehouse.Request

/-- A request target. -/
structure Uri where
  path : String
  query : Option String := none
  deriving DecidableEq, Repr, Inhabited

namespace Uri

/-- How many bytes a target may have. -/
def maxLength : Nat := 65534

def isLetter (c : Char) : Bool :=
  ('a' ≤ c && c ≤ 'z') || ('A' ≤ c && c ≤ 'Z')

def isDigit (c : Char) : Bool :=
  '0' ≤ c && c ≤ '9'

/-- Characters that may stand in a path without an escape. -/
def isPathChar (c : Char) : Bool :=
  let n := c.toNat
  n == 0x21 || (0x24 ≤ n && n ≤ 0x3B) || n == 0x3D || (0x40 ≤ n && n ≤ 0x5F) ||
    (0x61 ≤ n && n ≤ 0x7A) || n == 0x7C || n == 0x7E || 0x80 ≤ n || c == '"' || c == '\x7b' ||
    c == '\x7d'

/-- Characters that may stand in a query without an escape. -/
def isQueryChar (c : Char) : Bool :=
  let n := c.toNat
  n == 0x21 || (0x24 ≤ n && n ≤ 0x3B) || n == 0x3D || (0x3F ≤ n && n ≤ 0x7E) || 0x80 ≤ n

/-- Read a path, a query behind a question mark, and a fragment behind a number sign. A path that is
empty is the root. -/
def ofPathAndQuery? (cs : List Char) : Option Uri :=
  let (path, rest) := cs.span isPathChar
  let pathText := if path.isEmpty then "/" else String.ofList path
  match rest with
  | [] => some ⟨pathText, none⟩
  | '#' :: _ => some ⟨pathText, none⟩
  | '?' :: rest =>
    let (query, rest) := rest.span isQueryChar
    match rest with
    | [] => some ⟨pathText, some (String.ofList query)⟩
    | '#' :: _ => some ⟨pathText, some (String.ofList query)⟩
    | _ => none
  | _ => none

/-! ## Authorities -/

/-- Characters of an authority, besides the percent sign. -/
def isAuthorityChar (c : Char) : Bool :=
  isLetter c || isDigit c || "!$&'()*+,-.:;=@[]_~".toList.contains c

/-- What has been seen of an authority: colons since the last at sign or closing bracket, brackets,
a percent sign outside of what an at sign ends, and the last character. -/
structure AuthorityScan where
  colons : Nat := 0
  opened : Bool := false
  closed : Bool := false
  percent : Bool := false
  last : Option Char := none

def AuthorityScan.step (s : AuthorityScan) (c : Char) : Option AuthorityScan :=
  let next := { s with last := some c }
  if c = ':' then if s.colons ≥ 8 then none else some { next with colons := s.colons + 1 }
  else if c = '[' then if s.percent || s.opened then none else some { next with opened := true }
  else if c = ']' then
    if ! s.opened || s.closed then none
    else some { next with closed := true, colons := 0, percent := false }
  else if c = '@' then some { next with colons := 0, percent := false }
  else if c = '%' then some { next with percent := true }
  else if isAuthorityChar c then some next
  else none

/-- Whether these characters are an authority. -/
def isAuthority (cs : List Char) : Bool :=
  match cs.foldlM AuthorityScan.step {} with
  | some s => s.opened == s.closed && s.colons ≤ 1 && s.last != some '@' && ! s.percent
  | none => false

/-- Split off the characters of an authority: those in front of a path, a query or a fragment. -/
def splitAuthority (cs : List Char) : List Char × List Char :=
  cs.span fun c => c != '/' && c != '?' && c != '#'

def isSchemeChar (c : Char) : Bool :=
  isLetter c || isDigit c || c == '+' || c == '-' || c == '.' || c == '~'

/-- What follows a scheme, its colon and its two slashes: nothing if there is no scheme. A scheme
has at most 64 characters. -/
def afterScheme? (cs : List Char) : Option (Option (List Char)) :=
  let (scheme, rest) := cs.span isSchemeChar
  match rest with
  | ':' :: '/' :: '/' :: rest => if scheme.length > 64 then none else some (some rest)
  | _ => some none

/-- Read a request target. -/
def parse? (text : String) : Option Uri :=
  if text.utf8ByteSize > maxLength then none
  else
    match text.toList with
    | [] => none
    | ['*'] => some ⟨"*", none⟩
    | '/' :: rest => ofPathAndQuery? ('/' :: rest)
    | cs =>
      match afterScheme? cs with
      | none => none
      | some none => if isAuthority cs then some ⟨"", none⟩ else none
      | some (some rest) =>
        let (authority, rest) := splitAuthority rest
        if authority.isEmpty || ! isAuthority authority then none else ofPathAndQuery? rest

end Uri

end Gatehouse.Request
