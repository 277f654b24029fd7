/-!
Which handler a path is handed to.

A pattern is a row of parts, each either a fixed text or any text. A path matches a pattern if it
has the same parts between its slashes, no more and no fewer. Any text may be no text at all, except
in the last part: a path that ends with a slash matches nothing.
-/

namespace Gatehouse

namespace Route

/-- A part of a pattern. -/
inductive Part where
  | fixed (text : String)
  | any
  deriving DecidableEq, Repr

def Part.accepts (part : Part) (segment : List Char) : Bool :=
  match part with
  | fixed text => text.toList == segment
  | any => true

/-- The parts between the slashes of a path. -/
abbrev Pattern := List Part

def Pattern.acceptsSegments : Pattern → List (List Char) → Bool
  | [part], [segment] => part.accepts segment && ! segment.isEmpty
  | part :: pattern, segment :: segments => part.accepts segment && acceptsSegments pattern segments
  | _, _ => false

def Pattern.accepts (pattern : Pattern) (path : String) : Bool :=
  match path.toList with
  | '/' :: rest => pattern.acceptsSegments (rest.splitOn '/')
  | _ => false

/-- The handlers. -/
inductive Handler where
  | api
  | health
  deriving DecidableEq, Repr

/-- The patterns of all handlers. -/
def table : List (Pattern × Handler) := [
  ([.fixed "api", .any, .any], .api),
  ([.fixed "api", .any, .any, .any], .api),
  ([.fixed "api", .any, .any, .any, .any], .api),
  ([.fixed "health"], .health)]

/-- The handler of a path, if it has one. -/
def handler? (path : String) : Option Handler :=
  (table.find? fun row => row.1.accepts path).map (·.2)

end Route

end Gatehouse
