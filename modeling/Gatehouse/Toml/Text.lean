import Gatehouse.Text.Hex

/-!
The characters of a TOML document: blanks, comments, strings and keys.

Every reader takes characters and returns what it read with the characters after it, or nothing if
they do not begin with what it reads.
-/

namespace Gatehouse.Toml

def isBlank (c : Char) : Bool :=
  c == ' ' || c == '\t'

/-- Characters that may stand in a comment. -/
def isCommentChar (c : Char) : Bool :=
  c == '\t' || (0x20 ≤ c.toNat && c.toNat ≠ 0x7F)

def skipBlanks (cs : List Char) : List Char :=
  cs.dropWhile isBlank

/-- The end of a line. -/
def newline? : List Char → Option (List Char)
  | '\n' :: rest => some rest
  | '\r' :: '\n' :: rest => some rest
  | _ => none

/-- Skip blanks, comments and ends of lines. `fuel` is at least the number of characters. -/
def skipTrivia : (fuel : Nat) → List Char → List Char
  | 0, cs => cs
  | fuel + 1, cs =>
    match cs with
    | ' ' :: rest => skipTrivia fuel rest
    | '\t' :: rest => skipTrivia fuel rest
    | '\n' :: rest => skipTrivia fuel rest
    | '\r' :: '\n' :: rest => skipTrivia fuel rest
    | '#' :: rest => skipTrivia fuel (rest.dropWhile isCommentChar)
    | cs => cs

def trivia (cs : List Char) : List Char :=
  skipTrivia cs.length cs

/-- The rest of a line behind an entry: blanks, perhaps a comment, and the end of the line or of the
document. -/
def lineEnd? (cs : List Char) : Option (List Char) :=
  let rest := match skipBlanks cs with
    | '#' :: rest => rest.dropWhile isCommentChar
    | rest => rest
  match rest with
  | [] => some []
  | rest => newline? rest

/-! ## Strings -/

/-- The character with a code point that is spelled in hexadecimal digits. -/
def codePoint? (digits : List Char) : Option Char := do
  let values ← digits.mapM Hex.value?
  let n := values.foldl (fun n v => n * 16 + v) 0
  if h : n.isValidChar then some (Char.ofNatAux n h) else none

/-- The character of an escape, from the letter behind the backslash on. -/
def escape? : List Char → Option (Char × List Char)
  | 'b' :: rest => some (Char.ofNat 8, rest)
  | 't' :: rest => some ('\t', rest)
  | 'n' :: rest => some ('\n', rest)
  | 'f' :: rest => some (Char.ofNat 12, rest)
  | 'r' :: rest => some ('\r', rest)
  | '"' :: rest => some ('"', rest)
  | '\\' :: rest => some ('\\', rest)
  | 'u' :: rest =>
    if rest.length < 4 then none
    else (codePoint? (rest.take 4)).map fun c => (c, rest.drop 4)
  | 'U' :: rest =>
    if rest.length < 8 then none
    else (codePoint? (rest.take 8)).map fun c => (c, rest.drop 8)
  | _ => none

/-- Whether a character may stand for itself in a string of one line. -/
def isPlain (c : Char) : Bool :=
  isCommentChar c

/-- A basic string of one line, behind its opening quote. -/
def basicLine : (fuel : Nat) → (seen : List Char) → List Char → Option (String × List Char)
  | 0, _, _ => none
  | _ + 1, _, [] => none
  | _ + 1, seen, '"' :: rest => some (String.ofList seen.reverse, rest)
  | fuel + 1, seen, '\\' :: rest =>
    match escape? rest with
    | some (c, rest) => basicLine fuel (c :: seen) rest
    | none => none
  | fuel + 1, seen, c :: rest => if isPlain c then basicLine fuel (c :: seen) rest else none

/-- A literal string of one line, behind its opening quote. -/
def literalLine : (seen : List Char) → List Char → Option (String × List Char)
  | _, [] => none
  | seen, '\'' :: rest => some (String.ofList seen.reverse, rest)
  | seen, c :: rest => if isPlain c then literalLine (c :: seen) rest else none

/-- What a backslash at the end of a line swallows: all blanks and ends of lines behind it. -/
def foldLine? (cs : List Char) : Option (List Char) :=
  (newline? (skipBlanks cs)).map skipFold
where
  skipFold : List Char → List Char
    | ' ' :: rest => skipFold rest
    | '\t' :: rest => skipFold rest
    | '\n' :: rest => skipFold rest
    | '\r' :: '\n' :: rest => skipFold rest
    | cs => cs

/-- Split off a run of `quote` characters that closes a string of several lines: three, and up to
two more in front of them that belong to the string. -/
def closing? (quote : Char) (cs : List Char) : Option (Nat × List Char) :=
  let run := (cs.takeWhile (· == quote)).length
  if run < 3 then none else if run ≤ 5 then some (run - 3, cs.drop run) else some (2, cs.drop 5)

/-- A basic string of several lines. -/
def basicBlock : (fuel : Nat) → (seen : List Char) → List Char → Option (String × List Char)
  | 0, _, _ => none
  | _ + 1, _, [] => none
  | fuel + 1, seen, '"' :: rest =>
    match closing? '"' ('"' :: rest) with
    | some (extra, rest) => some (String.ofList (List.replicate extra '"' ++ seen).reverse, rest)
    | none => basicBlock fuel ('"' :: seen) rest
  | fuel + 1, seen, '\\' :: rest =>
    match escape? rest with
    | some (c, rest) => basicBlock fuel (c :: seen) rest
    | none =>
      match foldLine? rest with
      | some rest => basicBlock fuel seen rest
      | none => none
  | fuel + 1, seen, '\n' :: rest => basicBlock fuel ('\n' :: seen) rest
  | fuel + 1, seen, '\r' :: '\n' :: rest => basicBlock fuel ('\n' :: seen) rest
  | fuel + 1, seen, c :: rest => if isPlain c then basicBlock fuel (c :: seen) rest else none

/-- A literal string of several lines. -/
def literalBlock : (fuel : Nat) → (seen : List Char) → List Char → Option (String × List Char)
  | 0, _, _ => none
  | _ + 1, _, [] => none
  | fuel + 1, seen, '\'' :: rest =>
    match closing? '\'' ('\'' :: rest) with
    | some (extra, rest) => some (String.ofList (List.replicate extra '\'' ++ seen).reverse, rest)
    | none => literalBlock fuel ('\'' :: seen) rest
  | fuel + 1, seen, '\n' :: rest => literalBlock fuel ('\n' :: seen) rest
  | fuel + 1, seen, '\r' :: '\n' :: rest => literalBlock fuel ('\n' :: seen) rest
  | fuel + 1, seen, c :: rest => if isPlain c then literalBlock fuel (c :: seen) rest else none

/-- The characters of a block: the end of the line of its opening quotes does not count. -/
def blockStart (cs : List Char) : List Char :=
  (newline? cs).getD cs

/-- A string of one line. -/
def lineString? : List Char → Option (String × List Char)
  | '"' :: rest => basicLine (rest.length + 1) [] rest
  | '\'' :: rest => literalLine [] rest
  | _ => none

/-- A string of any kind. -/
def string? : List Char → Option (String × List Char)
  | '"' :: '"' :: '"' :: rest => basicBlock (rest.length + 1) [] (blockStart rest)
  | '\'' :: '\'' :: '\'' :: rest => literalBlock (rest.length + 1) [] (blockStart rest)
  | cs => lineString? cs

/-! ## Keys -/

def isBareKeyChar (c : Char) : Bool :=
  ('a' ≤ c && c ≤ 'z') || ('A' ≤ c && c ≤ 'Z') || ('0' ≤ c && c ≤ '9') || c == '-' || c == '_'

/-- One part of a key. -/
def simpleKey? (cs : List Char) : Option (String × List Char) :=
  match cs.span isBareKeyChar with
  | ([], _) => lineString? cs
  | (bare, rest) => some (String.ofList bare, rest)

/-- The parts of a dotted key, behind those in `seen`, which are in reverse order. -/
def keyParts : (fuel : Nat) → (seen : List String) → List Char → Option (List String × List Char)
  | 0, _, _ => none
  | fuel + 1, seen, cs =>
    match simpleKey? (skipBlanks cs) with
    | none => none
    | some (part, rest) =>
      match skipBlanks rest with
      | '.' :: rest => keyParts fuel (part :: seen) rest
      | rest => some ((part :: seen).reverse, rest)

/-- A dotted key: the parts before the last one, the last one, and the characters after the blanks
behind it. -/
def key? (maxParts : Nat) (cs : List Char) : Option (List String × String × List Char) :=
  match keyParts (cs.length + 1) [] cs with
  | none => none
  | some (parts, rest) =>
    if parts.length ≤ maxParts then parts.getLast?.map fun last => (parts.dropLast, last, rest)
    else none

end Gatehouse.Toml
