import Gatehouse.Dict
import Gatehouse.Time.Duration

/-!
Where services live, and a memory of where they were found.

The memory keeps a location until it is replaced or purged. Its age decides what it is good for: a
location younger than the time to live is used as it is, an older one is due to be looked up again.
-/

namespace Gatehouse

/-- The address of a service, found at a moment. An internal service is reachable only from inside.
-/
structure Location where
  host : String
  port : String
  internal : Bool
  updated : Nat
  deriving DecidableEq, Repr, Inhabited

namespace Location

def address (l : Location) : String := l.host ++ ":" ++ l.port

def age (l : Location) (now : Nat) : Nat := now - l.updated

def isFresh (l : Location) (ttl : Nat) (now : Nat) : Bool := l.age now < ttl

end Location

/-- The locations found so far, by service. -/
abbrev LocationCache := Dict Location

namespace LocationCache

/-- The location of a service if it is younger than the time to live. -/
def fresh? (cache : LocationCache) (service : String) (ttl : Nat) (now : Nat) :
    Option Location :=
  (cache.get? service).filter (·.isFresh ttl now)

/-- Keep a location as found now. -/
def store (cache : LocationCache) (service : String) (location : Location) (now : Nat) :
    LocationCache :=
  cache.insert service { location with updated := now }

/-- The services whose location is as old as the time to live, or older. -/
def expired (cache : LocationCache) (ttl : Nat) (now : Nat) : List String :=
  (cache.filter fun _ l => ! l.isFresh ttl now).keys

/-- Without the locations that are older than an age. -/
def purge (cache : LocationCache) (maxAge : Nat) (now : Nat) : LocationCache :=
  cache.filter fun _ l => l.age now ≤ maxAge

end LocationCache

end Gatehouse
