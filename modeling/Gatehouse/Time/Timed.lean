/-!
Steps that take time.

Such steps read the clock, change a state, and may wait. They can be given a moment up to which they
are waited for: steps that would wait beyond it are given up there, and whatever they have done
until then stays done. Steps that need no time at all are done even if the moment has passed.
-/

namespace Gatehouse

/-- Steps that begin at `now` and may last up to `limit`, if there is one: when they end and their
value, unless they are given up or never end, and the state afterwards. -/
def Timed (σ α : Type) : Type :=
  (limit : Option Nat) → (now : Nat) → σ → Option (Nat × α) × σ

/-- What comes after a length of time, or never comes. -/
abbrev Delayed (α : Type) := Option (Nat × α)

namespace Timed

variable {σ α β : Type}

def pure (value : α) : Timed σ α := fun _ now state => (some (now, value), state)

/-- Go on after the end. -/
def bind (steps : Timed σ α) (next : α → Timed σ β) : Timed σ β := fun limit now state =>
  match steps limit now state with
  | (some (ended, value), state) => next value limit ended state
  | (none, state) => (none, state)

instance : Monad (Timed σ) where
  pure := pure
  bind := bind

/-- Read the clock. -/
def now : Timed σ Nat := fun _ now state => (some (now, now), state)

/-- Read the state. -/
def state : Timed σ σ := fun _ now state => (some (now, state), state)

/-- Change the state, and take a value from it. -/
def step (f : σ → α × σ) : Timed σ α := fun _ now state => (some (now, (f state).1), (f state).2)

/-- Change the state. -/
def modify (f : σ → σ) : Timed σ Unit := step fun state => ((), f state)

/-- Whether a moment is not beyond a limit. -/
def isWithin (limit : Option Nat) (moment : Nat) : Bool :=
  limit.all fun last => moment ≤ last

/-- Set something off, which changes the state at once, and wait for what comes of it. -/
def await (start : (now : Nat) → σ → Delayed α × σ) : Timed σ α := fun limit now state =>
  match start now state with
  | (some (length, value), state) =>
    (if isWithin limit (now + length) then some (now + length, value) else none, state)
  | (none, state) => (none, state)

/-- Wait for a length of time. -/
def wait (length : Nat) : Timed σ Unit := await fun _ state => (some (length, ()), state)

/-- Wait forever. -/
def never : Timed σ α := await fun _ state => (none, state)

/-- The earlier of a limit and a moment. -/
def earlier (limit : Option Nat) (moment : Nat) : Nat :=
  match limit with
  | some last => min last moment
  | none => moment

/-- Give steps up at a moment, and have `expired` as their value then. -/
def upTo (moment : Nat) (expired : α) (steps : Timed σ α) : Timed σ α := fun limit now state =>
  let last := max now moment
  match steps (some (earlier limit last)) now state with
  | (some result, state) => (some result, state)
  | (none, state) => (if isWithin limit last then some (last, expired) else none, state)

end Timed

end Gatehouse
