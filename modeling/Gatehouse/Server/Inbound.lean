import Gatehouse.Request.Head
import Gatehouse.Upload.Source

/-!
Requests of clients as they arrive, and the limit on their bodies.
-/

namespace Gatehouse

/-- A request of a client: its head, the frames of its body, and how many certificates the client
has shown on the connection, if it was asked. -/
structure Inbound where
  head : Request.Head
  body : List Upload.Frame := []
  certificates : Option Nat := none
  deriving Repr, Inhabited

namespace Inbound

/-- The reason for which a body is not read on. -/
def tooLong : String := "length limit exceeded"

/-- The frames of a body up to a length. The first one that goes beyond it is a failure. -/
def limitFrames : (room : Nat) → List Upload.Frame → List Upload.Frame
  | _, [] => []
  | room, .failed reason :: rest => .failed reason :: limitFrames room rest
  | room, .data bytes :: rest =>
    if room < bytes.length then [.failed tooLong]
    else .data bytes :: limitFrames (room - bytes.length) rest

/-- The length of the body that the head announces. -/
def announced? (inbound : Inbound) : Option Nat :=
  (inbound.head.headers.raw? "content-length").bind fun text =>
    Numeral.natBelow? 0x10000000000000000 text.toList

/-- A request whose body is read up to a length, and no further than announced. There is none if
more than that is announced. -/
def limited? (limit : Nat) (inbound : Inbound) : Option Inbound :=
  match inbound.announced? with
  | some length =>
    if limit < length then none else some { inbound with body := limitFrames length inbound.body }
  | none => some { inbound with body := limitFrames limit inbound.body }

end Inbound

end Gatehouse
