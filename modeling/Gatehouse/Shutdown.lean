import Gatehouse.Dict
import Gatehouse.Text.Numeral

/-!
The signal that asks tasks to stop.

Every listener hears what was sent since it began to listen. Only the latest sending is kept, so a
listener that is behind by more than one first learns how many it has missed.
-/

namespace Gatehouse

/-- The number of sendings, and for every listener how many of them lie behind it. -/
structure Shutdown where
  sent : Nat := 0
  listeners : Dict Nat := ∅
  deriving Repr

namespace Shutdown

/-- What a listener finds. -/
inductive Heard where
  | nothing
  | signal
  | missed (count : Nat)
  deriving DecidableEq, Repr

def Heard.word : Heard → String
  | nothing => "Empty"
  | signal => "fired"
  | missed count => "Lagged(" ++ Numeral.natText count ++ ")"

/-- Begin to listen under a name. -/
def subscribe (s : Shutdown) (name : String) : Shutdown :=
  { s with listeners := s.listeners.insert name s.sent }

/-- Stop listening; whether the name was listening. -/
def drop (s : Shutdown) (name : String) : Bool × Shutdown :=
  (s.listeners.contains name, { s with listeners := s.listeners.erase name })

/-- The number of those who listen. -/
def size (s : Shutdown) : Nat := s.listeners.size

/-- Send the signal; how many will hear it. -/
def trigger (s : Shutdown) : Nat × Shutdown :=
  (s.size, { s with sent := s.sent + 1 })

/-- What a listener finds that has so many sendings behind it, and how many it has then. -/
def hear (sent behind : Nat) : Heard × Nat :=
  if sent ≤ behind then (.nothing, behind)
  else if sent = behind + 1 then (.signal, sent)
  else (.missed (sent - 1 - behind), sent - 1)

/-- Listen, without waiting. Nobody is found under a name that does not listen. -/
def poll (s : Shutdown) (name : String) : Option Heard × Shutdown :=
  match s.listeners.get? name with
  | none => (none, s)
  | some behind =>
    let (heard, behind) := hear s.sent behind
    (some heard, { s with listeners := s.listeners.insert name behind })

end Shutdown

end Gatehouse
