import Gatehouse.Text.Bytes
import Gatehouse.Text.Quoted

/-!
Where the bytes of an upload come from.

A body arrives in frames, and reading it may fail at any of them. It is one file, or a multipart
body whose parts are files as far as they have a file name.
-/

namespace Gatehouse.Upload

/-- A piece of a body, or the reason why there is no further piece. -/
inductive Frame where
  | data (bytes : Bytes)
  | failed (reason : String)
  deriving DecidableEq, Repr, Inhabited

/-- One part of a multipart body. -/
structure Part where
  filename : Option String
  frames : List Frame
  deriving DecidableEq, Repr, Inhabited

/-- What is uploaded. -/
inductive Source where
  /-- The whole body is one file. -/
  | single (filename : String) (frames : List Frame)
  /-- The parts that can be read, and the reason why the next one cannot be, if there is one. -/
  | multipart (parts : List Part) (failure : Option String)
  deriving DecidableEq, Repr, Inhabited

/-- A source without its content. -/
def Source.describe : Source → String
  | single filename _ => "Single \x7b filename: " ++ Text.quoted filename ++ ", .. \x7d"
  | multipart .. => "Multipart"

/-- What came of an upload: its files, their bytes, and the replies of the backend. -/
structure Summary where
  files : Nat := 0
  bytes : Nat := 0
  responses : Nat := 0
  deriving DecidableEq, Repr, Inhabited

/-- The content of frames without a failure among them, or the reason of the first failure. -/
def content : List Frame → Except String Bytes
  | [] => .ok []
  | .failed reason :: _ => .error reason
  | .data bytes :: rest => (content rest).map (bytes ++ ·)

end Gatehouse.Upload
