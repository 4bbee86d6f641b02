import BusExporter.Lib.Machine
import BusExporter.Model.Config
import BusExporter.Model.SelfMetrics
import Mathlib.Data.Finset.Insert

/-! The push loop of the OTLP exporter (`exporter/otlp/mod.rs`), stopped wherever the SDK may collect. Of the SDK
the model has what the loop registers with it, and that a collection calls every callback once. -/

namespace BusExporter.Otlp
open Lib Config

inductive InstrumentKind
  | observableGauge
  | observableCounter
deriving DecidableEq

structure Instrument where
  kind : InstrumentKind
  name : String
  description : String
  unit : String

structure Observation where
  instrument : Instrument
  value : Float
  attrs : List (String × String)

structure Scope where
  instruments : List Instrument := []
  registered : Finset String := ∅
  shared : List MetricValue := []

def instrumentKind : Metrics.MetricType → InstrumentKind
  | .gauge => .observableGauge
  | .counter => .observableCounter

def registerObservable (scope : Scope) (metric : MetricValue) : Scope :=
  { scope with instruments := scope.instruments ++
      [⟨instrumentKind metric.metricType, metric.name, metric.description, metric.unit⟩] }

def Instrument.callback (i : Instrument) (values : List MetricValue) : List Observation :=
  (values.filter (·.name = i.name)).map fun v => ⟨i, v.value, v.labels.toList⟩

def Scope.collect (scope : Scope) : List Observation :=
  scope.instruments.flatMap fun i => i.callback scope.shared

def registerNew (scope : Scope) (m : MetricValue) : Scope :=
  if m.name ∈ scope.registered then scope
  else registerObservable { scope with registered := insert m.name scope.registered } m

/-- Where the loop stands. The last round, after the token is cancelled, is the flush. -/
inductive Pc
  | start
  | waiting
  | snapshot (flush : Bool)
  | register (flush : Bool) (metrics rest : List MetricValue)
  | replace (flush : Bool) (metrics : List MetricValue)
  | internal (flush : Bool)
  | registerInternal (flush : Bool) (values rest : List MetricValue)
  | replaceInternal (flush : Bool) (values : List MetricValue)
  | shutdown
  | stopped

structure State where
  pc : Pc := .start
  device : Scope := {}
  internal : Scope := {}
  internalMetrics : Option Internal.InternalMetrics

inductive Wake
  | tick
  | cancelled

structure Env where
  wake : Wake := .tick
  providerBuilt : Bool := true
  store : MetricStore := ∅
  stored : RandomState := []
  stats : RandomState := []
  now : Internal.Instant := 0
  clock : SystemTime := 0

inductive Input
  | task (env : Env)
  | observe (im : Internal.InternalMetrics)

inductive Event
  | shared (metrics : List MetricValue)
  | sharedInternal (values : List MetricValue)

def taskStep (config : OtlpExporterConfig) (env : Env) (s : State) : Option (State × List Event) :=
  match s.pc with
  | .start =>
      match config.endpoint with
      | none => some ({ s with pc := .stopped }, [])
      | some _ => some ({ s with pc := if env.providerBuilt then .waiting else .stopped }, [])
  | .waiting =>
      match env.wake with
      | .cancelled => some ({ s with pc := .snapshot true }, [])
      | .tick => some ({ s with pc := .snapshot false }, [])
  | .snapshot flush =>
      let metrics := env.store.allMetricsFlat env.stored
      if flush then some ({ s with pc := .register true metrics metrics }, [])
      else if metrics.isEmpty && s.internalMetrics.isNone then some ({ s with pc := .waiting }, [])
      else
        some ({ s with
                internalMetrics := s.internalMetrics.map fun im =>
                  { im with otlpExportsTotal := im.otlpExportsTotal + 1 }
                pc := .register false metrics metrics }, [])
  | .register flush metrics (m :: rest) =>
      some ({ s with device := registerNew s.device m, pc := .register flush metrics rest }, [])
  | .register flush metrics [] => some ({ s with pc := .replace flush metrics }, [])
  | .replace flush metrics =>
      some ({ s with device := { s.device with shared := metrics }, pc := .internal flush }, [.shared metrics])
  | .internal flush =>
      match s.internalMetrics with
      | none => some ({ s with pc := if flush then .shutdown else .waiting }, [])
      | some im =>
          let values := im.toMetricValues env.stats env.now env.clock
          some ({ s with pc := .registerInternal flush values values }, [])
  | .registerInternal flush values (v :: rest) =>
      some ({ s with internal := registerNew s.internal v, pc := .registerInternal flush values rest }, [])
  | .registerInternal flush values [] => some ({ s with pc := .replaceInternal flush values }, [])
  | .replaceInternal flush values =>
      some ({ s with
              internal := { s.internal with shared := values }
              pc := if flush then .shutdown else .waiting }, [.sharedInternal values])
  | .shutdown => some ({ s with pc := .stopped }, [])
  | .stopped => none

def step (config : OtlpExporterConfig) (s : State) : Input → Option (State × List Event)
  | .task env => taskStep config env s
  | .observe im =>
      match s.internalMetrics with
      | none => none
      | some _ => some ({ s with internalMetrics := some im }, [])

def machine (config : OtlpExporterConfig) : Machine State Input Event := ⟨step config⟩

end BusExporter.Otlp
