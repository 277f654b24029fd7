import Gatehouse.Exchange.Basic
import Gatehouse.Security.Gate
import Gatehouse.Wire.Argument

/-!
Heartbeats.

A gateway without a coordinator answers a heartbeat itself. With one, it passes the heartbeat on,
with the time and a sign of its own.
-/

namespace Gatehouse.Heartbeat

/-- The inner call that is a heartbeat. -/
def selector : String := "heartbeat"

/-- What a gateway without a coordinator says about itself. -/
def ownData (now : Int) : Entries Json :=
  Entries.ofList [("leader", .bool true), ("cron", .bool true), ("ttl", .ofNat 0),
    ("epoch", .ofNat 0), ("ts", .ofInt now)]

/-- The heartbeat that the coordinator is sent. -/
def beat (gate : Gate) (coordinator : String) (args : Dict Any) (now : Int) : Envelope :=
  gate.stamp now
    { module := some coordinator
      args := args.insert "ts" (Any.ofJson (.ofInt now))
      inner := some { param := some selector, method := some "POST" } }

/-- What the coordinator's answer to a heartbeat comes to. -/
def acknowledged (coordinator : String) (answer : Except Fault (Reply × Envelope)) :
    Except Fault (Entries Json) :=
  match answer with
  | .error fault => .error (.heartbeat fault.message)
  | .ok (reply, _) =>
    let data := membersOfArgs reply.data
    match Entries.get? "httpcode" data with
    | some code => .error (.heartbeat (coordinator ++ " answered " ++ code.text))
    | none => .ok data

/-- Pass a heartbeat with arguments on to the coordinator. -/
def relay (context : CallContext) (gate : Gate) (coordinator : String) (args : Dict Any) :
    Exchange (Except Fault (Entries Json)) := do
  let now ← Exchange.timeOfDay
  let answer ← Exchange.dispatch context coordinator "POST" (beat gate coordinator args now)
  return acknowledged coordinator answer

end Gatehouse.Heartbeat
