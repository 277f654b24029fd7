import Gatehouse.Text.Numeral

/-!
Lengths of time, and how messages spell them.

All times are natural numbers of nanoseconds: a length counts them, and so does a moment, from the
start of the clock. The time since a moment is their difference, and nothing for a moment to come.
The text of a length uses the largest of the units s, ms, µs and ns that leaves a whole part, with
as many decimals as the rest needs: `1.5s`, `250ms`, `0ns`.
-/

namespace Gatehouse

namespace Duration

def ofMillis (ms : Nat) : Nat := ms * 1000000

def ofSecs (secs : Nat) : Nat := secs * 1000000000

/-- Whole milliseconds; a rest is left out. -/
def millis (d : Nat) : Nat := d / 1000000

/-- The decimals of `rest / 10 ^ places`, without zeros at their end. -/
def decimals (rest places : Nat) : List Char :=
  let written := Numeral.digits rest
  let padded := List.replicate (places - written.length) '0' ++ written
  (padded.reverse.dropWhile (· == '0')).reverse

/-- A count of the unit `10 ^ places` nanoseconds. -/
def inUnit (nanos places : Nat) (unit : String) : String :=
  let whole := Numeral.natText (nanos / Nat.pow 10 places)
  let rest := nanos % Nat.pow 10 places
  if rest = 0 then whole ++ unit
  else whole ++ "." ++ String.ofList (decimals rest places) ++ unit

def text (d : Nat) : String :=
  if d ≥ 1000000000 then inUnit d 9 "s"
  else if d ≥ 1000000 then inUnit d 6 "ms"
  else if d ≥ 1000 then inUnit d 3 "µs"
  else Numeral.natText d ++ "ns"

end Duration

end Gatehouse
