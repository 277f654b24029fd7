import Gatehouse.Dict
import Gatehouse.Number.Double

/-!
Values of a TOML document, and how its tables come together.

A document is written piece by piece: a header opens a table at a path, a dotted key makes the
tables on its way. Each table remembers how it came about, because that decides what may still be
added to it: a table with a header takes no dotted keys from elsewhere, a table made by dotted keys
gets no header, and an inline table is closed.
-/

namespace Gatehouse

namespace Toml

/-- How a table came about. -/
inductive Shape where
  /-- It has a header of its own, or is the whole document. -/
  | header
  /-- It lies on the way to a table with a header. -/
  | implied
  /-- It lies on the way of a dotted key. -/
  | dotted
  /-- It stands between braces. -/
  | inline
  deriving DecidableEq, Repr, Inhabited

end Toml

/-- A TOML value. -/
inductive Toml where
  | string (value : String)
  | integer (value : Int)
  | float (value : Double)
  | boolean (value : Bool)
  /-- A date, a time or both. -/
  | moment
  | array (elements : List Toml)
  | table (shape : Toml.Shape) (entries : List (String × Toml))
  /-- The tables whose headers stand in double brackets. -/
  | tables (elements : List Toml)
  deriving Repr, Inhabited

namespace Toml

/-- How long a dotted key may be, and how deep values may be nested. -/
def maxDepth : Nat := 79

/-- Change the table at the end of a path, and make the tables on the way that are not there. A path
goes through the last one of a row of tables. -/
def update (dotted : Bool) (change : Toml → Option Toml) : List String → Toml → Option Toml
  | [], found => change found
  | key :: path, .table shape entries =>
    let put (child : Toml) : Toml := .table shape (Entries.insert key child entries)
    match Entries.get? key entries with
    | none =>
      (update dotted change path (.table (if dotted then .dotted else .implied) [])).map put
    | some (.table inner below) =>
      if inner = .inline ∨ (dotted = true ∧ inner = .header) then none
      else (update dotted change path (.table inner below)).map put
    | some (.tables elements) =>
      match elements.getLast? with
      | none => none
      | some last =>
        (update dotted change path last).map fun last => put (.tables (elements.dropLast ++ [last]))
    | some _ => none
  | _ :: _, _ => none

/-- Add a key to a table. A key that was reached over dots belongs to a table that dots made, and
any other does not. -/
def addKey (overDots : Bool) (key : String) (value : Toml) : Toml → Option Toml
  | .table shape entries =>
    if (shape = .dotted) ↔ overDots = true then
      match Entries.get? key entries with
      | none => some (.table shape (Entries.insert key value entries))
      | some _ => none
    else none
  | _ => none

/-- Add a value under a dotted key, seen from the table that the key is written in. -/
def addDotted (path : List String) (key : String) (value : Toml) (table : Toml) : Option Toml :=
  update true (addKey (! path.isEmpty) key value) path table

/-- Open the table with a header. -/
def openTable (key : String) : Toml → Option Toml
  | .table shape entries =>
    match Entries.get? key entries with
    | none => some (.table shape (Entries.insert key (.table .header []) entries))
    | some (.table .implied below) =>
      some (.table shape (Entries.insert key (.table .header below) entries))
    | some _ => none
  | _ => none

/-- Open one more table with a header in double brackets. -/
def openElement (key : String) : Toml → Option Toml
  | .table shape entries =>
    match Entries.get? key entries with
    | none => some (.table shape (Entries.insert key (.tables [.table .header []]) entries))
    | some (.tables elements) =>
      some (.table shape (Entries.insert key (.tables (elements ++ [.table .header []])) entries))
    | some _ => none
  | _ => none

end Toml

end Gatehouse
