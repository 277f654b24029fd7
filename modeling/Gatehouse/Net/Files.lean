import Gatehouse.Text.Bytes

/-!
Files, as the gateway sees them when it reads one.
-/

namespace Gatehouse

namespace Net

/-- Why a file cannot be read. -/
inductive ReadError where
  | notFound
  | isDirectory
  /-- The path goes through something that is not a directory. -/
  | notDirectory
  | nameTooLong
  /-- A path ends at a zero for the operating system, so it may not hold one. -/
  | zeroInName
  deriving DecidableEq, Repr

/-- What is said of it. All but the last are sentences of the operating system. -/
def ReadError.message : ReadError → String
  | notFound => "No such file or directory (os error 2)"
  | isDirectory => "Is a directory (os error 21)"
  | notDirectory => "Not a directory (os error 20)"
  | nameTooLong => "File name too long (os error 36)"
  | zeroInName => "file name contained an unexpected NUL byte"

/-- Files by path. -/
abbrev Files := (path : String) → Except ReadError Bytes

/-- Whether there is something under a path. -/
def Files.exist (files : Files) (path : String) : Bool :=
  match files path with
  | .ok _ => true
  | .error .isDirectory => true
  | .error _ => false

/-! ## Files in memory -/

namespace Files

/-- How many bytes a name may have. -/
def maxName : Nat := 255

/-- How many bytes a path may have. -/
def maxPath : Nat := 4095

/-- The names in a path. -/
def names (path : String) : List String :=
  (path.splitOn "/").filter fun name => name ≠ "" ∧ name ≠ "."

/-- What a path leads to. -/
inductive Node where
  | directory (names : List String)
  | file (content : Bytes)

/-- What there is: files, and directories that are there even if they are empty. -/
structure Tree where
  files : List (List String × Bytes)
  directories : List (List String)

/-- What is under these names. Whatever a file is in is a directory. -/
def Tree.node (tree : Tree) (names : List String) : Except ReadError Node :=
  match tree.files.lookup names with
  | some content => .ok (.file content)
  | none =>
    if (tree.directories ++ tree.files.map (·.1)).any names.isPrefixOf then .ok (.directory names)
    else .error .notFound

/-- Go on along a path. -/
def Tree.walk (tree : Tree) (node : Except ReadError Node) (name : String) :
    Except ReadError Node :=
  match node with
  | .error e => .error e
  | .ok (.file _) => .error .notDirectory
  | .ok (.directory names) =>
    if name = "" ∨ name = "." then .ok (.directory names)
    else if name = ".." then .ok (.directory names.dropLast)
    else if name.utf8ByteSize > maxName then .error .nameTooLong
    else tree.node (names ++ [name])

/-- The files with these contents, and these directories. -/
def ofList (directories : List String) (contents : List (String × Bytes)) : Files := fun path =>
  let tree : Tree :=
    ⟨contents.map fun file => (names file.1, file.2), directories.map names⟩
  if path.toList.contains (Char.ofNat 0) then .error .zeroInName
  else if path = "" then .error .notFound
  else if path.utf8ByteSize > maxPath then .error .nameTooLong
  else
    match (path.splitOn "/").foldl tree.walk (.ok (.directory [])) with
    | .ok (.file content) => .ok content
    | .ok (.directory _) => .error .isDirectory
    | .error e => .error e

end Files

end Net

end Gatehouse
