import BusExporter.Model.Reader
import BusExporter.Model.Validate

/-! Loading a configuration (`config.rs`): reading, parsing, and merging of metrics files. The YAML
parser is a parameter. -/

namespace BusExporter
open Lib

namespace Path

def isAbsolute (path : String) : Bool := Config.startsWith "/" path

def stripSeparators (path : List Char) : List Char := (path.reverse.dropWhile (· = '/')).reverse

def parent (path : String) : Option String :=
  match stripSeparators path.toList with
  | [] => none
  | text =>
      match rsplitOnce '/' text with
      | none => some ""
      | some (before, _) =>
          let before := stripSeparators before
          some (if before.isEmpty then "/" else String.ofList before)

def join (base path : String) : String :=
  if isAbsolute path || base = "" then path
  else if base.toList.getLast? = some '/' then base ++ path
  else base ++ "/" ++ path

end Path

namespace Config

structure MetricDefaultsConfig where
  description : Option String := none
  metricType : Option MetricType := none
  registerType : Option RegisterType := none
  dataType : Option DataType := none
  byteOrder : Option ByteOrder := none
  scale : Option Float := none
  offset : Option Float := none
  unit : Option String := none

structure RawMetricConfig where
  name : String
  description : Option String := none
  metricType : Option MetricType := none
  registerType : Option RegisterType := none
  address : Option UInt16 := none
  dataType : Option DataType := none
  byteOrder : Option ByteOrder := none
  scale : Option Float := none
  offset : Option Float := none
  unit : Option String := none
  command : List UInt8 := []
  responseLength : Option UInt16 := none
  responseOffset : UInt16 := 0

structure MetricsFileConfig where
  defaults : Option MetricDefaultsConfig := none
  metrics : List RawMetricConfig

def required {α : Type} (value : Option α) (message : String) : Result α :=
  match value with
  | some a => .ok a
  | none => .error ⟨message, []⟩

def RawMetricConfig.intoMetric (raw : RawMetricConfig) (defaults : Option MetricDefaultsConfig)
    (collectorName filePath : String) : Result MetricConfig := do
  let place := s!"collector '{collectorName}': metric '{raw.name}' in '{filePath}'"
  let metricType ← required (raw.metricType.or (defaults.bind (·.metricType)))
    s!"{place}: missing required field 'type'"
  let dataType ← required (raw.dataType.or (defaults.bind (·.dataType)))
    s!"{place}: missing required field 'data_type'"
  .ok
    { name := raw.name
      description := (raw.description.or (defaults.bind (·.description))).getD ""
      metricType
      registerType := raw.registerType.or (defaults.bind (·.registerType))
      address := raw.address
      dataType
      byteOrder := (raw.byteOrder.or (defaults.bind (·.byteOrder))).getD .bigEndian
      scale := (raw.scale.or (defaults.bind (·.scale))).getD 1.0
      offset := (raw.offset.or (defaults.bind (·.offset))).getD 0.0
      unit := (raw.unit.or (defaults.bind (·.unit))).getD ""
      command := raw.command
      responseLength := raw.responseLength
      responseOffset := raw.responseOffset }

def insertMetric (merged : List MetricConfig) (metric : MetricConfig) : List MetricConfig :=
  if merged.any (·.name = metric.name) then
    merged.map fun m => if m.name = metric.name then metric else m
  else merged ++ [metric]

structure Files where
  readToString : String → Result String
  parseConfig : String → Result Config
  parseMetricsFile : String → Result MetricsFileConfig

variable (files : Files)

def mergeRaw (defaults : Option MetricDefaultsConfig) (collectorName filePath : String) :
    List RawMetricConfig → List MetricConfig → Result (List MetricConfig)
  | [], merged => .ok merged
  | raw :: rest, merged => do
      let metric ← raw.intoMetric defaults collectorName filePath
      mergeRaw defaults collectorName filePath rest (insertMetric merged metric)

def mergeFile (collectorName configDir filePathStr : String) (merged : List MetricConfig) :
    Result (List MetricConfig) := do
  let filePath := if Path.isAbsolute filePathStr then filePathStr else Path.join configDir filePathStr
  let content ← (files.readToString filePath).mapError
    (·.context s!"collector '{collectorName}': reading metrics file '{filePath}'")
  let metricsFile ← (files.parseMetricsFile content).mapError
    (·.context s!"collector '{collectorName}': parsing metrics file '{filePath}'")
  if metricsFile.metrics.isEmpty then
    .error ⟨s!"collector '{collectorName}': metrics file '{filePath}' contains no metrics", []⟩
  else mergeRaw metricsFile.defaults collectorName filePath metricsFile.metrics merged

def mergeFiles (collectorName configDir : String) :
    List String → List MetricConfig → Result (List MetricConfig)
  | [], merged => .ok merged
  | file :: rest, merged => do
      let merged ← mergeFile files collectorName configDir file merged
      mergeFiles collectorName configDir rest merged

def CollectorConfig.resolveMetricsFiles (configDir : String) (c : CollectorConfig) :
    Result CollectorConfig := do
  let merged ← mergeFiles files c.name configDir (c.metricsFiles.getD []) []
  .ok { c with metrics := c.metrics.foldl insertMetric merged }

/-- The same on a collector that is changed in place: `self.metrics` is taken out after the last file has
been read. -/
def CollectorConfig.resolveMetricsFilesMut (configDir : String) (self : CollectorConfig) :
    Result Unit × CollectorConfig :=
  match mergeFiles files self.name configDir (self.metricsFiles.getD []) [] with
  | .error e => (.error e, self)
  | .ok merged =>
      let inlineMetrics := self.metrics
      let self := { self with metrics := [] }
      (.ok (), { self with metrics := inlineMetrics.foldl insertMetric merged })

def resolveAll (configDir : String) : List CollectorConfig → Result (List CollectorConfig)
  | [] => .ok []
  | c :: rest => do
      let c ← c.resolveMetricsFiles files configDir
      let rest ← resolveAll configDir rest
      .ok (c :: rest)

end Config

def Config.loadForPull (files : Config.Files) (path : String) : Result Config := do
  let content ← (files.readToString path).mapError (·.context s!"reading {path}")
  let config ← (files.parseConfig content).mapError (·.context "parsing config YAML")
  let configDir := (Path.parent path).getD "."
  let collectors ← Config.resolveAll files configDir config.collectors
  .ok { config with collectors }

def Config.load (files : Config.Files) (path : String) : Result Config := do
  let config ← Config.loadForPull files path
  config.validate.mapError fun message => ⟨message, []⟩
  .ok config

end BusExporter
