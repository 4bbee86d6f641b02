import BusExporter.Model.Collector
import BusExporter.Model.StoreAccess

/-! `run_command` from the moment everything is spawned (`commands/run.rs`): the main task with its shutdown
sequence, the collector tasks, and the OTLP exporter (`exporter/otlp/mod.rs`), which all share the metric
store. The other exporters only read the store and are left out, and so is the internal telemetry of the
OTLP exporter. -/

namespace BusExporter.RunCommand
open Lib Config

inductive Main
  | serving
  | cancelled
  | signalled
  | joined
  | done
deriving DecidableEq

inductive Exporter
  | waiting
  | collecting
  | flushing
  | flushed
  | stopped
deriving DecidableEq

variable {n : Nat} {σ : Fin n → Type}

structure System (σ : Fin n → Type) where
  main : Main := .serving
  collectors : ∀ i, Collector.State (σ i)
  store : StoreAccess.Shared Unit := SharedMap.empty
  internal : Option InternalMetrics := some ∅
  exporter : Exporter := .waiting
  sharedMetrics : List MetricValue := []

inductive Input (n : Nat)
  | main
  | collector (i : Fin n) (env : Collector.Env)
  | tick
  | flush
  | visit (collectorName : String)
  | finish
  | shutdownProvider

inductive Event (σ : Fin n → Type)
  | collector (i : Fin n) (e : Collector.Event (σ i))
  | exportersCancelled
  | flagSent
  | collectorsJoined
  | finalSnapshot (parts : List (Σ _ : String, List MetricValue))
  | exported (metrics : List MetricValue)
  | complete

def ended : Collector.Pc → Bool
  | .returned _ | .panicked _ => true
  | _ => false

variable (t : ∀ i, Collector.Task (σ i))

/-- A collector sees the shared maps as they are when it takes its step. -/
def view (s : System σ) (i : Fin n) : Collector.State (σ i) :=
  { s.collectors i with store := s.store.map, internal := s.internal }

def mainStep (s : System σ) : Option (System σ × List (Event σ)) :=
  match s.main with
  | .serving => some ({ s with main := .cancelled }, [.exportersCancelled])
  | .cancelled =>
      some ({ s with main := .signalled, collectors := fun i => { s.collectors i with shutdown := true } },
        [.flagSent])
  | .signalled =>
      if ∀ i, ended (s.collectors i).pc then some ({ s with main := .joined }, [.collectorsJoined]) else none
  | .joined => if s.exporter = .stopped then some ({ s with main := .done }, [.complete]) else none
  | .done => none

def collectorStep (s : System σ) (i : Fin n) (env : Collector.Env) : Option (System σ × List (Event σ)) :=
  (Collector.taskStep (t i) env (view s i)).map fun (next, events) =>
    ({ s with
        collectors := Function.update s.collectors i next
        store := { s.store with map := next.store }
        internal := next.internal }, events.map (.collector i))

def exporterStep (s : System σ) : Input n → Option (System σ × List (Event σ))
  | .tick =>
      if s.exporter = .waiting then
        (StoreAccess.step s.store (.start ())).map fun (store, _) =>
          ({ s with store, exporter := .collecting }, [])
      else none
  | .flush =>
      if s.exporter = .waiting ∧ s.main ≠ .serving then
        (StoreAccess.step s.store (.start ())).map fun (store, _) =>
          ({ s with store, exporter := .flushing }, [])
      else none
  | .visit name =>
      (StoreAccess.step s.store (.visit () name)).map fun (store, _) => ({ s with store }, [])
  | .finish =>
      match s.exporter, StoreAccess.step s.store (.finish ()) with
      | .collecting, some (store, [.snapshot _ parts]) =>
          some ({ s with store, exporter := .waiting, sharedMetrics := StoreAccess.flat parts }, [])
      | .flushing, some (store, [.snapshot _ parts]) =>
          some ({ s with store, exporter := .flushed, sharedMetrics := StoreAccess.flat parts },
            [.finalSnapshot parts])
      | _, _ => none
  | .shutdownProvider =>
      if s.exporter = .flushed then some ({ s with exporter := .stopped }, [.exported s.sharedMetrics])
      else none
  | .main | .collector _ _ => none

def step (s : System σ) : Input n → Option (System σ × List (Event σ))
  | .main => mainStep s
  | .collector i env => collectorStep t s i env
  | input => exporterStep s input

def machine : Machine (System σ) (Input n) (Event σ) := ⟨step t⟩

def spawned (worlds : ∀ i, σ i) : System σ :=
  { collectors := fun i => Collector.start (t i) (worlds i) true }

structure Spawns (config : Config) {σ : Fin config.collectors.length → Type}
    (t : ∀ i, Collector.Task (σ i)) : Prop where
  collector : ∀ i, (t i).collector = config.collectors[i]
  globalLabels : ∀ i, (t i).globalLabels =
    config.globalLabels.entries.foldl (fun labels e => labels.insert e.1 e.2) ∅

end BusExporter.RunCommand
