import BusExporter.Lib.HashMap
import Std.Data.TreeMap.Lemmas

/-! The metric store (`metrics.rs`). Times are nanoseconds since the epoch. -/

namespace BusExporter
open Lib

abbrev SystemTime := Nat

abbrev BTreeMap (α : Type) := Std.TreeMap String α

namespace Metrics

inductive MetricType
  | gauge
  | counter
deriving DecidableEq

end Metrics

structure MetricValue where
  name : String
  value : Float
  metricType : Metrics.MetricType
  labels : BTreeMap String := ∅
  description : String
  unit : String
  updatedAt : SystemTime

abbrev MetricStore := HashMap String (List MetricValue)

namespace MetricStore

def baseLabels (collectorName : String) (globalLabels collectorLabels : BTreeMap String) :
    BTreeMap String :=
  (collectorLabels.foldl (fun labels k v => labels.insert k v) globalLabels).insert "collector"
    collectorName

def withLabels (base : BTreeMap String) (m : MetricValue) : MetricValue :=
  let merged := m.labels.foldl (fun labels k v => labels.insert k v) base
  { m with labels := if m.unit = "" then merged else merged.insert "unit" m.unit }

/-- What is stored of a collector. The metrics pass through a hash map by name, whose walk gives their order. -/
def snapshot (order : RandomState) (collectorName : String) (metrics : List MetricValue)
    (globalLabels collectorLabels : BTreeMap String) : List MetricValue :=
  let base := baseLabels collectorName globalLabels collectorLabels
  let deduped : HashMap String MetricValue :=
    metrics.foldl (fun map m => map.insert m.name (withLabels base m)) ∅
  (deduped.iter order).map (·.2)

def publish (order : RandomState) (store : MetricStore) (collectorName : String)
    (metrics : List MetricValue) (globalLabels collectorLabels : BTreeMap String) : MetricStore :=
  store.insert collectorName (snapshot order collectorName metrics globalLabels collectorLabels)

def allMetricsFlat (order : RandomState) (store : MetricStore) : List MetricValue :=
  (store.iter order).flatMap (·.2)

def metricsFor (store : MetricStore) (collectorName : String) : List MetricValue :=
  (store.lookup collectorName).getD []

def removeCollector (store : MetricStore) (collectorName : String) : Bool × MetricStore :=
  ((store.lookup collectorName).isSome, store.erase collectorName)

end MetricStore
end BusExporter
