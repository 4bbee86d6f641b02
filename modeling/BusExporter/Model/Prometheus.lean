import BusExporter.Lib.F64
import BusExporter.Model.Metrics

/-! The Prometheus exposition of the metric store (`exporter/prometheus/mod.rs`). -/

namespace BusExporter.Prometheus
open Lib

def sanitizeChar (position : Nat) (c : Char) : List Char :=
  if c.isAlphanum || c = '_' then if position = 0 && c.isDigit then ['_', c] else [c] else ['_']

def sanitizeName (s : String) : String :=
  let out := s.toList.zipIdx.flatMap fun (c, position) => sanitizeChar position c
  if out.isEmpty then "_" else String.ofList out

def buildMetricName (name unit : String) : String :=
  if unit = "" then "bus_" ++ sanitizeName name
  else "bus_" ++ sanitizeName name ++ "_" ++ sanitizeName unit

def escapeLabelValue (v : String) : String :=
  let backslashes := replaceChar '\\' ['\\', '\\'] v.toList
  let quotes := replaceChar '"' ['\\', '"'] backslashes
  String.ofList (replaceChar '\n' ['\\', 'n'] quotes)

def escapeDescription (description : String) : String :=
  let backslashes := replaceChar '\\' ['\\', '\\'] description.toList
  String.ofList (replaceChar '\n' ['\\', 'n'] backslashes)

def formatLabel (k v : String) : String := sanitizeName k ++ "=\"" ++ escapeLabelValue v ++ "\""

def formatMetricLine (fqname : String) (labels : BTreeMap String) (value : Float) : String :=
  if labels.isEmpty then fqname ++ " " ++ F64.display value
  else
    let labelStr := labels.toList.map fun (k, v) => formatLabel k v
    fqname ++ "\x7b" ++ ",".intercalate labelStr ++ "\x7d " ++ F64.display value

def typeStr : Metrics.MetricType → String
  | .gauge => "gauge"
  | .counter => "counter"

def grouped (all : List MetricValue) : BTreeMap (List MetricValue) :=
  all.foldl (fun groups m =>
    let fqname := buildMetricName m.name m.unit
    groups.insert fqname (groups.getD fqname [] ++ [m])) ∅

def renderGroup (fqname : String) : List MetricValue → String
  | [] => ""
  | first :: rest =>
      "# HELP " ++ fqname ++ " " ++ escapeDescription first.description ++ "\n" ++
        "# TYPE " ++ fqname ++ " " ++ typeStr first.metricType ++ "\n" ++
        String.join ((first :: rest).map fun m => formatMetricLine fqname m.labels m.value ++ "\n")

def renderMetrics (order : RandomState) (store : MetricStore) : String :=
  String.join ((grouped (store.allMetricsFlat order)).toList.map fun (fqname, values) =>
    renderGroup fqname values)

end BusExporter.Prometheus
