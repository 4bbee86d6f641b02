import BusExporter.Model.Collector
import BusExporter.Model.I2c
import BusExporter.Model.I3c
import BusExporter.Model.Spi

/-! A collector task over a reader that reads metric by metric, with the metric loop of `read` unrolled:
the task also stops before every metric, and looks at its cancellation token there. -/

namespace BusExporter.Collector
open Lib Config

structure LoopReader (σ : Type) extends MetricReader σ where
  metrics : σ → List MetricConfig
  readMetric : MetricConfig → σ → Except Panic (Result (Float × Float) × σ)
  loops : ∀ cancelled s, read cancelled s = readEach cancelled readMetric (metrics s) s

def i2cReader {ω : Type} (decodeBytes : Decoder.ByteDecoder) :
    LoopReader (I2c.I2cMetricReader ω × ω) where
  toMetricReader := I2c.metricReader decodeBytes
  metrics s := s.1.metrics
  readMetric := I2c.readI2cMetric decodeBytes
  loops _ _ := rfl

def spiReader {ω : Type} (decodeBytes : Decoder.ByteDecoder) :
    LoopReader (Spi.SpiMetricReader ω × ω) where
  toMetricReader := Spi.metricReader decodeBytes
  metrics s := s.1.metrics
  readMetric := Spi.readSpiMetric decodeBytes
  loops _ _ := rfl

def i3cReader {ω : Type} (decodeBytes : Decoder.ByteDecoder) (host : Host ω) :
    LoopReader (I3c.I3cMetricReaderHandle ω × ω) where
  toMetricReader := I3c.I3cMetricReaderHandle.metricReader decodeBytes host
  metrics s := s.1.metrics
  readMetric := I3c.I3cMetricReaderHandle.readMetric decodeBytes host
  loops _ _ := rfl

structure LoopTask (σ : Type) where
  collector : CollectorConfig
  reader : LoopReader σ
  writer : Option (MetricWriter σ)
  globalLabels : BTreeMap String

def LoopTask.task {σ : Type} (t : LoopTask σ) : Task σ where
  collector := t.collector
  reader := t.reader.toMetricReader
  writer := t.writer
  globalLabels := t.globalLabels

structure Progress (σ : Type) where
  results : HashMap String (Result (Float × Float))
  rest : List MetricConfig
  world : σ

/-- In the middle of a `read` the task's own state is that of the moment the `read` was called. -/
structure LoopState (σ : Type) where
  task : State σ
  reading : Option (Progress σ) := none

inductive LoopEvent (σ : Type)
  | task (e : Event σ)
  | flagSent
  | metricRead (metric : MetricConfig)

section Steps
variable {σ : Type} (t : LoopTask σ)

def lifted (action : Option (State σ × List (Event σ))) : Option (LoopState σ × List (LoopEvent σ)) :=
  action.map fun (task, events) => ({ task }, events.map .task)

def finishRead (env : Env) (s : State σ) (results : HashMap String (Result (Float × Float))) (world : σ) :
    LoopState σ × List (LoopEvent σ) :=
  let read : ReadResults := { metrics := results, ioCount := results.entries.length }
  let counted := s.count t.task fun stats => { stats with readRequests := stats.readRequests + read.ioCount }
  ({ task := { counted with world, pc := .results read (read.metrics.iter env.orders.results) } },
    [.task (.read s.world read world)])

def loopTaskStep (env : Env) (s : LoopState σ) : Option (LoopState σ × List (LoopEvent σ)) :=
  match s.reading with
  | none =>
      match s.task.pc with
      | .read => some ({ s with reading := some ⟨∅, t.reader.metrics s.task.world, s.task.world⟩ }, [])
      | _ => lifted (taskStep t.task env s.task)
  | some ⟨results, [], world⟩ => some (finishRead t env s.task results world)
  | some ⟨results, metric :: rest, world⟩ =>
      if s.task.cancelled then some (finishRead t env s.task results world)
      else
        match t.reader.readMetric metric world with
        | .error cause => some ({ task := { s.task with pc := .panicked cause } }, [.metricRead metric])
        | .ok (result, world) =>
            some ({ s with reading := some ⟨results.insert metric.name result, rest, world⟩ },
              [.metricRead metric])

def flagged (s : LoopState σ) : LoopState σ := { s with task := { s.task with shutdown := true } }

def loopStep (s : LoopState σ) : Input → Option (LoopState σ × List (LoopEvent σ))
  | .task env => loopTaskStep t env s
  | .sendShutdown => some (flagged s, [.flagSent])
  | input => (step t.task s.task input).map fun (task, events) => ({ s with task }, events.map .task)

def loopMachine : Machine (LoopState σ) Input (LoopEvent σ) := ⟨loopStep t⟩

def loopStart (world : σ) (internalMetrics : Bool) : LoopState σ := { task := start t.task world internalMetrics }

end Steps
end BusExporter.Collector
