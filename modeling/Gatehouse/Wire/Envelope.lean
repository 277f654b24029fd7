import Gatehouse.Wire.Any

/-!
The messages between the gateway and its backends.

An `Envelope` carries a request to a backend, a `Reply` its answer. All single values are optional,
so that one that is unset differs from one that is set and empty.
-/

namespace Gatehouse

open Wire

/-- A call of the gateway's own, sent inside an envelope: a lookup, a session check or a heartbeat.
-/
structure InnerCall where
  param : Option String := none
  method : Option String := none
  args : Dict Any := ∅
  deriving DecidableEq, Repr, Inhabited

instance : Message InnerCall where
  empty := {}
  fields c := textField 1 c.param ++ textField 2 c.method ++ mapFields 3 c.args
  encodedSize c := textSize 1 c.param + textSize 2 c.method + mapSize 3 c.args
  merge depth c field :=
    match field.number with
    | 1 => field.text?.map fun s => { c with param := some s }
    | 2 => field.text?.map fun s => { c with method := some s }
    | 3 => (mergeEntry depth c.args field).map fun args => { c with args }
    | _ => some c

/-- A request to a backend. -/
structure Envelope where
  module : Option String := none
  param : Option String := none
  paramId : Option String := none
  action : Option String := none
  args : Dict Any := ∅
  path : Option String := none
  token : Option String := none
  sign : Option String := none
  ip : Option String := none
  userAgent : Option String := none
  tokenType : Option String := none
  timestamp : Option Int32 := none
  language : Option String := none
  apiVersion : Option String := none
  method : Option String := none
  uid : Option String := none
  isAdmin : Option Int32 := none
  sessionEnd : Option Int32 := none
  completed : Option Int32 := none
  readonly : Option Int32 := none
  inner : Option InnerCall := none
  deriving DecidableEq, Repr, Inhabited

/-- The fields of an inner call, if there is one. -/
def innerField (inner : Option InnerCall) : List Field :=
  match inner with
  | some call => [.bytes 21 (Message.encode call)]
  | none => []

instance : Message Envelope where
  empty := {}
  fields e :=
    textField 1 e.module ++ textField 2 e.param ++ textField 3 e.paramId ++ textField 4 e.action ++
    mapFields 5 e.args ++ textField 6 e.path ++ textField 7 e.token ++ textField 8 e.sign ++
    textField 9 e.ip ++ textField 10 e.userAgent ++ textField 11 e.tokenType ++
    int32Field 12 e.timestamp ++ textField 13 e.language ++ textField 14 e.apiVersion ++
    textField 15 e.method ++ textField 16 e.uid ++ int32Field 17 e.isAdmin ++
    int32Field 18 e.sessionEnd ++ int32Field 19 e.completed ++ int32Field 20 e.readonly ++
    innerField e.inner
  encodedSize e :=
    textSize 1 e.module + textSize 2 e.param + textSize 3 e.paramId + textSize 4 e.action +
    mapSize 5 e.args + textSize 6 e.path + textSize 7 e.token + textSize 8 e.sign +
    textSize 9 e.ip + textSize 10 e.userAgent + textSize 11 e.tokenType +
    int32Size 12 e.timestamp + textSize 13 e.language + textSize 14 e.apiVersion +
    textSize 15 e.method + textSize 16 e.uid + int32Size 17 e.isAdmin +
    int32Size 18 e.sessionEnd + int32Size 19 e.completed + int32Size 20 e.readonly +
    partSize 21 e.inner
  merge depth e field :=
    match field.number with
    | 1 => field.text?.map fun s => { e with module := some s }
    | 2 => field.text?.map fun s => { e with param := some s }
    | 3 => field.text?.map fun s => { e with paramId := some s }
    | 4 => field.text?.map fun s => { e with action := some s }
    | 5 => (mergeEntry depth e.args field).map fun args => { e with args }
    | 6 => field.text?.map fun s => { e with path := some s }
    | 7 => field.text?.map fun s => { e with token := some s }
    | 8 => field.text?.map fun s => { e with sign := some s }
    | 9 => field.text?.map fun s => { e with ip := some s }
    | 10 => field.text?.map fun s => { e with userAgent := some s }
    | 11 => field.text?.map fun s => { e with tokenType := some s }
    | 12 => field.int32?.map fun i => { e with timestamp := some i }
    | 13 => field.text?.map fun s => { e with language := some s }
    | 14 => field.text?.map fun s => { e with apiVersion := some s }
    | 15 => field.text?.map fun s => { e with method := some s }
    | 16 => field.text?.map fun s => { e with uid := some s }
    | 17 => field.int32?.map fun i => { e with isAdmin := some i }
    | 18 => field.int32?.map fun i => { e with sessionEnd := some i }
    | 19 => field.int32?.map fun i => { e with completed := some i }
    | 20 => field.int32?.map fun i => { e with readonly := some i }
    | 21 => do
      let bytes ← field.bytes?
      let inner ← Message.mergePart (depth - 1) e.inner bytes
      some { e with inner }
    | _ => some e

/-- The answer of a backend: data under names, and the request as the backend left it. -/
structure Reply where
  data : Dict Any := ∅
  back : Option Envelope := none
  deriving DecidableEq, Repr, Inhabited

/-- The fields of an envelope sent back, if there is one. -/
def backField (back : Option Envelope) : List Field :=
  match back with
  | some envelope => [.bytes 2 (Message.encode envelope)]
  | none => []

instance : Message Reply where
  empty := {}
  fields r := mapFields 1 r.data ++ backField r.back
  encodedSize r := mapSize 1 r.data + partSize 2 r.back
  merge depth r field :=
    match field.number with
    | 1 => (mergeEntry depth r.data field).map fun data => { r with data }
    | 2 => do
      let bytes ← field.bytes?
      let back ← Message.mergePart (depth - 1) r.back bytes
      some { r with back }
    | _ => some r

end Gatehouse
