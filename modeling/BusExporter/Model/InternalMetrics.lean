import BusExporter.Lib.HashMap

/-! Counters of the exporter about itself (`internal_metrics.rs`). The counters are natural numbers,
which are the source's `u64` as long as they are below 2^64; those of polls and failures never exceed the number of
events of a run. -/

namespace BusExporter
open Lib

structure CollectorStats where
  pollsTotal : Nat := 0
  pollsSuccess : Nat := 0
  pollsError : Nat := 0
  readRequests : Nat := 0
  readErrors : Nat := 0
  lastPollDurationSecs : Float := 0
deriving DecidableEq

abbrev InternalMetrics := HashMap String CollectorStats

namespace InternalMetrics

def updateCollector (name : String) (f : CollectorStats → CollectorStats) (im : InternalMetrics) :
    InternalMetrics :=
  (im.orInsert name {}).modify name f

def statsOf (im : InternalMetrics) (name : String) : CollectorStats := (im.lookup name).getD {}

end InternalMetrics
end BusExporter
