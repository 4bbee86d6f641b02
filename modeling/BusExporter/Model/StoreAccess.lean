import BusExporter.Lib.SharedMap
import BusExporter.Model.Metrics

/-! The metric store as many tasks use it: collectors publish and are removed, each in one step, and
readers walk it entry by entry in between. -/

namespace BusExporter
open Lib

inductive StoreOp
  | publish (order : RandomState) (collectorName : String) (metrics : List MetricValue)
      (globalLabels collectorLabels : BTreeMap String)
  | removeCollector (collectorName : String)

namespace StoreOp

def collectorName : StoreOp → String
  | .publish _ name _ _ _ | .removeCollector name => name

def apply (store : MetricStore) : StoreOp → MetricStore
  | .publish order name metrics globalLabels collectorLabels =>
      store.publish order name metrics globalLabels collectorLabels
  | .removeCollector name => (store.removeCollector name).2

def content : StoreOp → List MetricValue
  | .publish order name metrics globalLabels collectorLabels =>
      MetricStore.snapshot order name metrics globalLabels collectorLabels
  | .removeCollector _ => []

def update : StoreOp → Update String (List MetricValue)
  | .publish order name metrics globalLabels collectorLabels =>
      .insert name (content (.publish order name metrics globalLabels collectorLabels))
  | .removeCollector name => .remove name

end StoreOp

namespace StoreAccess

abbrev Shared (ι : Type) := SharedMap String (List MetricValue) ι

inductive Access (ι : Type)
  | operation (op : StoreOp)
  | start (reader : ι)
  | visit (reader : ι) (collectorName : String)
  | finish (reader : ι)

inductive Event (ι : Type)
  | operated (op : StoreOp)
  | started (reader : ι)
  | snapshot (reader : ι) (parts : List (Σ _ : String, List MetricValue))

variable {ι : Type} [DecidableEq ι]

def step (s : Shared ι) : Access ι → Option (Shared ι × List (Event ι))
  | .operation op =>
      some ({ map := op.apply s.map, walks := fun i => (s.walks i).map (·.after op.update) }, [.operated op])
  | .start i =>
      match s.walks i with
      | none => some (s.setWalk i (some (.start s.map)), [.started i])
      | some _ => none
  | .visit i name =>
      match s.walks i with
      | none => none
      | some w => if name ∈ w.visited then none else some (s.setWalk i (some (w.visit s.map name)), [])
  | .finish i =>
      match s.walks i with
      | none => none
      | some w => if w.due = [] then some (s.setWalk i none, [.snapshot i w.collected]) else none

def machine : Machine (Shared ι) (Access ι) (Event ι) := ⟨step⟩

def flat (parts : List (Σ _ : String, List MetricValue)) : List MetricValue := parts.flatMap (·.2)

def part (collectorName : String) (parts : List (Σ _ : String, List MetricValue)) : List MetricValue :=
  flat (parts.filter (·.1 = collectorName))

def operations (trace : List (Event ι)) : List StoreOp :=
  trace.filterMap fun
    | .operated op => some op
    | .started _ | .snapshot _ _ => none

end StoreAccess
end BusExporter
