import Gatehouse.Toml.Scalar

/-!
Reading TOML documents.

The functions over characters return what they read and the characters after it. `fuel` is more than
the number of characters left and never runs out.
-/

namespace Gatehouse.Toml

mutual

/-- A value, in which others may be nested `depth` deep. -/
def value : (fuel depth : Nat) → List Char → Option (Toml × List Char)
  | 0, _, _ => none
  | fuel + 1, depth, cs =>
    match cs with
    | '"' :: _ => (string? cs).map fun (s, rest) => (.string s, rest)
    | '\'' :: _ => (string? cs).map fun (s, rest) => (.string s, rest)
    | 't' :: 'r' :: 'u' :: 'e' :: rest => some (.boolean true, rest)
    | 'f' :: 'a' :: 'l' :: 's' :: 'e' :: rest => some (.boolean false, rest)
    | '[' :: rest =>
      match depth with
      | 0 => none
      | depth + 1 => elements fuel depth [] (trivia rest)
    | '\x7b' :: rest =>
      match depth with
      | 0 => none
      | depth + 1 =>
        match skipBlanks rest with
        | '\x7d' :: rest => some (.table .inline [], rest)
        | rest => pairs fuel depth (.table .inline []) rest
    | cs => number? cs

/-- The elements of an array up to its closing bracket, behind those in `seen`, which are in reverse
order. -/
def elements : (fuel depth : Nat) → (seen : List Toml) → List Char → Option (Toml × List Char)
  | 0, _, _, _ => none
  | fuel + 1, depth, seen, cs =>
    match cs with
    | ']' :: rest => some (.array seen.reverse, rest)
    | cs =>
      match value fuel depth cs with
      | none => none
      | some (v, rest) =>
        match trivia rest with
        | ',' :: rest => elements fuel depth (v :: seen) (trivia rest)
        | ']' :: rest => some (.array (v :: seen).reverse, rest)
        | _ => none

/-- The pairs of an inline table from the next one to its closing brace, added to `made`. -/
def pairs : (fuel depth : Nat) → (made : Toml) → List Char → Option (Toml × List Char)
  | 0, _, _, _ => none
  | fuel + 1, depth, made, cs =>
    match key? maxDepth cs with
    | some (path, key, '=' :: rest) =>
      match value fuel depth (skipBlanks rest) with
      | none => none
      | some (v, rest) =>
        match addDotted path key v made with
        | none => none
        | some made =>
          match skipBlanks rest with
          | ',' :: rest => pairs fuel depth made (skipBlanks rest)
          | '\x7d' :: rest => some (made, rest)
          | _ => none
    | _ => none

end

/-- What has been read of a document: its tables, and the path of the table that is open. -/
structure Document where
  root : Toml := .table .header []
  header : List String := []

namespace Document

/-- Read a pair in the table that is open. -/
def pair? (doc : Document) (cs : List Char) : Option (Document × List Char) :=
  match key? maxDepth cs with
  | some (path, key, '=' :: rest) => do
    let (v, rest) ← value (rest.length + 1) maxDepth (skipBlanks rest)
    let root ← update false (addDotted path key v) doc.header doc.root
    let rest ← lineEnd? rest
    some ({ doc with root }, rest)
  | _ => none

/-- Read the header of a table. -/
def header? (doc : Document) : List Char → Option (Document × List Char)
  | '[' :: '[' :: rest =>
    match key? maxDepth rest with
    | some (path, key, ']' :: ']' :: rest) => do
      let root ← update false (openElement key) path doc.root
      let rest ← lineEnd? rest
      some (⟨root, path ++ [key]⟩, rest)
    | _ => none
  | '[' :: rest =>
    match key? maxDepth rest with
    | some (path, key, ']' :: rest) => do
      let root ← update false (openTable key) path doc.root
      let rest ← lineEnd? rest
      some (⟨root, path ++ [key]⟩, rest)
    | _ => none
  | _ => none

/-- Read line after line. -/
def read : (fuel : Nat) → Document → List Char → Option Document
  | 0, _, _ => none
  | fuel + 1, doc, cs =>
    match trivia cs with
    | [] => some doc
    | '[' :: rest =>
      match header? doc ('[' :: rest) with
      | some (doc, rest) => read fuel doc rest
      | none => none
    | cs =>
      match pair? doc cs with
      | some (doc, rest) => read fuel doc rest
      | none => none

end Document

/-- The entries of a document. A byte order mark in front of it is read over. -/
def parse? (text : String) : Option Toml :=
  let cs := match text.toList with
    | '\uFEFF' :: rest => rest
    | cs => cs
  (Document.read (cs.length + 1) {} cs).map (·.root)

end Gatehouse.Toml
