/-!
The paths under which backends are reached: `/api/{version}/{module}[/{param}[/{id}]]`.

`ApiPath.parse?` reads a path and `ApiPath.text` writes it. One slash at the very end is read over;
apart from that every part between slashes has to be there and not be empty.
-/

namespace Gatehouse

/-- A path that names a backend module, and what it asks of it. -/
structure ApiPath where
  version : String
  module : String
  param : Option String
  paramId : Option String
  deriving DecidableEq, Repr

namespace ApiPath

/-- The first part of every such path. -/
def root : List Char := "api".toList

/-- The module that the gateway answers itself, or passes on to a coordinator. -/
def heartbeatModule : String := "heartbeat"

/-- The module that answers with facts about the gateway's build. -/
def infoModule : String := "info"

/-- The module name that is reserved and never reaches a backend. -/
def entrypointModule : String := "entrypoint"

/-- A text without one slash at its end, if it has one there. -/
def dropFinalSlash (cs : List Char) : List Char :=
  if cs.getLast? = some '/' then cs.dropLast else cs

/-- The path with these parts after the root. -/
def ofSegments? : List (List Char) → Option ApiPath
  | [version, module] => some ⟨String.ofList version, String.ofList module, none, none⟩
  | [version, module, param] =>
    some ⟨String.ofList version, String.ofList module, some (String.ofList param), none⟩
  | [version, module, param, id] =>
    some ⟨String.ofList version, String.ofList module, some (String.ofList param),
      some (String.ofList id)⟩
  | _ => none

/-- Read a path. -/
def parse? (path : String) : Option ApiPath :=
  match path.toList with
  | '/' :: rest =>
    match (dropFinalSlash rest).splitOn '/' with
    | first :: segments =>
      if first = root ∧ segments.all (! ·.isEmpty) then ofSegments? segments else none
    | [] => none
  | _ => none

/-- The parts of a path after the root. -/
def segments (path : ApiPath) : List String :=
  path.version :: path.module :: (path.param.toList ++ path.paramId.toList)

/-- Write a path, without a slash at its end. -/
def text (path : ApiPath) : String :=
  String.ofList (path.segments.foldl (fun acc s => acc ++ '/' :: s.toList) ('/' :: root))

def isHeartbeat (path : ApiPath) : Bool :=
  path.module == heartbeatModule

def isInfo (path : ApiPath) : Bool :=
  path.module == infoModule

def isEntrypoint (path : ApiPath) : Bool :=
  path.module == entrypointModule

end ApiPath

end Gatehouse
