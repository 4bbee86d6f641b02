import BusExporter.Model.Factory

/-! Collection for the pull and watch commands (`commands/mod.rs`). The regular expression library is
a parameter. -/

namespace BusExporter
open Lib Config

def compileFilter (compile : String → Result (String → Bool)) (option : String) :
    Option String → Result (Option (String → Bool))
  | none => .ok none
  | some pattern =>
      match compile pattern with
      | .ok isMatch => .ok (some isMatch)
      | .error e => .error ⟨s!"invalid --{option} regex: {e.message}", []⟩

def matching (filter : Option (String → Bool)) (name : String) : Bool :=
  match filter with
  | some isMatch => isMatch name
  | none => true

def filterCollectors (compile : String → Result (String → Bool)) (collectors : List CollectorConfig)
    (collectorFilter metricFilter : Option String) : Result (List CollectorConfig) := do
  let collectorRe ← compileFilter compile "collector" collectorFilter
  let metricRe ← compileFilter compile "metric" metricFilter
  let named := collectors.filter fun c => matching collectorRe c.name
  let kept := named.map fun c => { c with metrics := c.metrics.filter fun m => matching metricRe m.name }
  .ok (kept.filter fun c => !c.metrics.isEmpty)

structure MetricEntry where
  name : String
  value : Option Float
  rawValue : Option Float
  error : Option String
deriving DecidableEq

structure CollectorEntry where
  name : String
  protocol : String
  metrics : List MetricEntry
deriving DecidableEq

structure Report where
  collectors : List CollectorEntry := []
  totalMetrics : Nat := 0
  successful : Nat := 0
  failed : Nat := 0
deriving DecidableEq

-- JSON has no number for the other floats
def jsonNumber (x : Float) : Option Float := if x.isFinite then some x else none

def addMetric (reading : Except String ReadResults) (acc : Report × List MetricEntry) (metric : MetricConfig) :
    Report × List MetricEntry :=
  let (report, entries) := acc
  let report := { report with totalMetrics := report.totalMetrics + 1 }
  match reading with
  | .error text => ({ report with failed := report.failed + 1 }, entries ++ [⟨metric.name, none, none, some text⟩])
  | .ok results =>
      match results.metrics.lookup metric.name with
      | some (.ok (rawValue, scaledValue)) =>
          ({ report with successful := report.successful + 1 },
            entries ++ [⟨metric.name, jsonNumber scaledValue, jsonNumber rawValue, none⟩])
      | some (.error e) =>
          ({ report with failed := report.failed + 1 }, entries ++ [⟨metric.name, none, none, some e.message⟩])
      | none =>
          ({ report with failed := report.failed + 1 },
            entries ++ [⟨metric.name, none, none, some "metric not in results"⟩])

def Report.add (report : Report) (collector : CollectorConfig) (reading : Except String ReadResults) : Report :=
  let (report, entries) := collector.metrics.foldl (addMetric reading) (report, [])
  { report with collectors := report.collectors ++ [⟨collector.name, collector.protocol.toString, entries⟩] }

namespace MetricReaderFactory
variable {ρ ω : Type} (factory : MetricReaderFactory ρ ω) (cancelled : ω → Bool)

def readWith (metrics : List MetricConfig) (reader : ρ) (w : ω) : Except Panic (Except String ReadResults × ω) :=
  match factory.reader.connect (factory.reader.setMetrics metrics (reader, w)) with
  | (.error e, _, w) => .ok (.error s!"connect failed: {e.message}", w)
  | (.ok (), s) => do
      let (results, s) ← factory.reader.read (fun s => cancelled s.2) s
      .ok (.ok results, (factory.reader.disconnect s).2.2)

def readCollector (collector : CollectorConfig) (w : ω) : Except Panic (Except String ReadResults × ω) := do
  let (created, w) ← factory.create collector w
  match created with
  | .error e => .ok (.error s!"collector create failed: {e.message}", w)
  | .ok reader => factory.readWith cancelled collector.metrics reader w

def collectFrom (report : Report) : List CollectorConfig → ω → Except Panic (Report × ω)
  | [], w => .ok (report, w)
  | collector :: rest, w => do
      let (reading, w) ← factory.readCollector cancelled collector w
      collectFrom (report.add collector reading) rest w

def collectOnce (collectors : List CollectorConfig) (w : ω) : Except Panic (Report × ω) :=
  factory.collectFrom cancelled {} collectors w

end MetricReaderFactory

variable {κ ω : Type} (platform : Platform κ ω) (cancelled : ω → Bool)

def collectOnce (collectors : List CollectorConfig) (w : ω) : Except Panic (Report × ω) :=
  (metricReaderFactoryImpl platform).collectOnce cancelled collectors w

structure PullOutput where
  report : Report
  totalCollectors : Nat
deriving DecidableEq

def runPullWith (collect : List CollectorConfig → ω → Except Panic (Report × ω))
    (compile : String → Result (String → Bool)) (config : Config) (collectorFilter metricFilter : Option String)
    (w : ω) : Except Panic (Result (PullOutput × Nat) × ω) :=
  match filterCollectors compile config.collectors collectorFilter metricFilter with
  | .error e => .ok (.error e, w)
  | .ok filteredCollectors =>
      if filteredCollectors.isEmpty then .ok (.error ⟨"no collectors/metrics match the given filters", []⟩, w)
      else do
        let (report, w) ← collect filteredCollectors w
        .ok (.ok (⟨report, filteredCollectors.length⟩, if 0 < report.failed then 2 else 0), w)

def runPull (compile : String → Result (String → Bool)) (config : Config)
    (collectorFilter metricFilter : Option String) (w : ω) : Except Panic (Result (PullOutput × Nat) × ω) :=
  runPullWith (collectOnce platform fun _ => false) compile config collectorFilter metricFilter w

end BusExporter
