import BusExporter.Model.Config

/-! The reader and writer traits (`reader/mod.rs`). An implementation acts on a state `σ` that holds
the reader, the writer, and the bus and devices behind them. -/

namespace BusExporter
open Lib

structure Error where
  message : String
  causes : List String := []
deriving DecidableEq

namespace Error

def context (text : String) (e : Error) : Error := ⟨text, e.message :: e.causes⟩

def chain (e : Error) : String := ": ".intercalate (e.message :: e.causes)

end Error

abbrev Result (α : Type) := Except Error α

inductive Panic
  | unwrapNone
  | sliceOutOfRange
deriving DecidableEq

structure ReadResults where
  metrics : HashMap String (Result (Float × Float))
  ioCount : Nat

abbrev ReadEntry := Σ _ : String, Result (Float × Float)

structure MetricReader (σ : Type) where
  setMetrics : List Config.MetricConfig → σ → σ
  connect : σ → Result Unit × σ
  disconnect : σ → Result Unit × σ
  isConnected : σ → Bool
  read : (σ → Bool) → σ → Except Panic (ReadResults × σ)

structure MetricWriter (σ : Type) where
  executeWrites : List Config.WriteStep → σ → Result Unit × σ

structure MetricReaderFactory (ρ ω : Type) where
  create : Config.CollectorConfig → ω → Except Panic (Result ρ × ω)
  reader : MetricReader (ρ × ω)

/-- The metric loop that the readers without batching share: cancellation is looked at before
every metric. -/
def readLoop {σ : Type} (cancelled : σ → Bool)
    (readMetric : Config.MetricConfig → σ → Except Panic (Result (Float × Float) × σ)) :
    List Config.MetricConfig → HashMap String (Result (Float × Float)) → σ →
      Except Panic (HashMap String (Result (Float × Float)) × σ)
  | [], results, s => .ok (results, s)
  | metric :: rest, results, s =>
      if cancelled s then .ok (results, s)
      else do
        let (result, s) ← readMetric metric s
        readLoop cancelled readMetric rest (results.insert metric.name result) s

def readEach {σ : Type} (cancelled : σ → Bool)
    (readMetric : Config.MetricConfig → σ → Except Panic (Result (Float × Float) × σ))
    (metrics : List Config.MetricConfig) (s : σ) : Except Panic (ReadResults × σ) := do
  let (results, s) ← readLoop cancelled readMetric metrics ∅ s
  .ok ({ metrics := results, ioCount := results.entries.length }, s)

end BusExporter
