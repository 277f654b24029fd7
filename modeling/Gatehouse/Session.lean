import Gatehouse.Json.Printer
import Gatehouse.Text.Blank
import Gatehouse.Wire.Envelope

/-!
The session of a client as it travels on envelopes.

A backend reports the session in two ways: in the envelope that it sends back, and, if it is the
session service, in its data. `echo` takes over what is set on the envelope sent back; `apply` takes
over what the data holds, each value converted to its field.
-/

namespace Gatehouse.Session

/-- Members of the session service's data. -/
abbrev Data := Entries Json

/-- The session of an envelope sent back. Only what is set there is taken over. -/
def echo (target back : Envelope) : Envelope :=
  { target with
    token := back.token <|> target.token
    tokenType := back.tokenType <|> target.tokenType
    language := back.language <|> target.language
    uid := back.uid <|> target.uid
    isAdmin := back.isAdmin <|> target.isAdmin
    sessionEnd := back.sessionEnd <|> target.sessionEnd
    completed := back.completed <|> target.completed
    readonly := back.readonly <|> target.readonly }

/-- The session of a reply's envelope, if it has one. -/
def echoReply (target : Envelope) (reply : Reply) : Envelope :=
  match reply.back with
  | some back => echo target back
  | none => target

/-- A string, or the text of a number. -/
def text? : Json → Option String
  | .str s => some s
  | .num n => some (Json.text (.num n))
  | _ => none

/-- A number of 32 bits. -/
def int32? (i : Int) : Option Int32 :=
  if -0x80000000 ≤ i ∧ i < 0x80000000 then some (Int32.ofInt i) else none

/-- A whole number, a numeral with white space around it, or a truth value, as a flag. -/
def flag? : Json → Option Int32
  | .num (.int i) => int32? i
  | .str s => (Numeral.int? (Text.trim s).toList).bind int32?
  | .bool b => some (if b then 1 else 0)
  | _ => none

/-- The session in the data. What is not there or cannot be converted changes nothing. -/
def apply (envelope : Envelope) (data : Data) : Envelope :=
  { envelope with
    uid := (data.get? "uid").bind text? <|> envelope.uid
    isAdmin := (data.get? "isadmin").bind flag? <|> envelope.isAdmin
    sessionEnd := (data.get? "sessionend").bind flag? <|> envelope.sessionEnd
    completed := (data.get? "completed").bind flag? <|> envelope.completed
    readonly := (data.get? "readonly").bind flag? <|> envelope.readonly
    token := (data.get? "token").bind text? <|> envelope.token
    tokenType := (data.get? "token_type").bind text? <|> envelope.tokenType }

end Gatehouse.Session
