import Gatehouse.Dict
import Gatehouse.Text.Numeral

/-!
What the gateway records about itself.

An event stands for the samples that it adds to named series: a counter sums them up, a gauge keeps
the last one, and a histogram counts them.
-/

namespace Gatehouse

namespace Metrics

/-- How a lookup of an address went. -/
inductive Lookup where
  /-- The address was at hand. -/
  | hit
  /-- It had to be asked for. -/
  | miss
  /-- Asking failed, and an old address was used. -/
  | stale
  /-- Asking failed, and there was none. -/
  | failed
  deriving DecidableEq, Repr

def Lookup.word : Lookup → String
  | hit => "hit"
  | miss => "miss"
  | stale => "stale"
  | failed => "error"

/-- Something that is recorded. -/
inductive Event where
  | request (method : String) (status : Nat) (module : String)
  | lookup (outcome : Lookup)
  | dial (succeeded : Bool)
  /-- The number of channels in the pool. -/
  | poolSize (count : Nat)
  | rateLimited
  | upload (files bytes : Nat)
  deriving DecidableEq, Repr

/-- What a sample does to the value of its series. -/
inductive Sample where
  | add (amount : Nat)
  | set (value : Nat)
  | observe
  deriving DecidableEq, Repr

def Sample.apply (sample : Sample) (value : Nat) : Nat :=
  match sample with
  | add amount => value + amount
  | set value => value
  | observe => value + 1

/-- A series, by its name and its labels in order. -/
structure Series where
  name : String
  labels : List (String × String)
  deriving DecidableEq, Repr

def Series.text (series : Series) : String :=
  series.name ++ "\x7b" ++
    ",".intercalate (series.labels.map fun label => label.1 ++ "=" ++ label.2) ++ "\x7d"

/-- The samples of an event. -/
def Event.samples : Event → List (Series × Sample)
  | request method status module => [
      (⟨"gateway_requests_total",
        [("method", method), ("module", module), ("status", Numeral.natText status)]⟩, .add 1),
      (⟨"gateway_request_duration_seconds", [("method", method), ("module", module)]⟩, .observe)]
  | lookup outcome => [(⟨"gateway_registry_lookups_total", [("outcome", outcome.word)]⟩, .add 1)]
  | dial succeeded =>
    [(⟨"gateway_pool_dials_total", [("outcome", if succeeded then "ok" else "error")]⟩, .add 1)]
  | poolSize count => [(⟨"gateway_pool_connections", []⟩, .set count)]
  | rateLimited => [(⟨"gateway_rate_limited_total", [("reason", "rps_limit")]⟩, .add 1)]
  | upload files bytes => [(⟨"gateway_upload_files_total", []⟩, .add files),
      (⟨"gateway_upload_bytes_total", []⟩, .add bytes)]

/-- Add a sample to the values of all series. -/
def record (values : Dict Nat) (series : Series) (sample : Sample) : Dict Nat :=
  values.insert series.text (sample.apply ((values.get? series.text).getD 0))

/-- The values of the series that the events touch. -/
def totals (events : List Event) : Dict Nat :=
  (events.flatMap Event.samples).foldl (fun values s => record values s.1 s.2) ∅

/-- The number of channels that was recorded last. -/
def lastPoolSize? (events : List Event) : Option Nat :=
  events.foldl (fun last event =>
    match event with
    | .poolSize count => some count
    | _ => last) none

end Metrics

end Gatehouse
