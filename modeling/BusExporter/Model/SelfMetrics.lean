import BusExporter.Lib.Decimal
import BusExporter.Model.InternalMetrics
import BusExporter.Model.Metrics

/-! The two listings of the exporter's metrics about itself (`internal_metrics.rs`): as text for a scrape, and
as values for the OTLP exporter. Instants are nanoseconds, and so is the clock. -/

namespace BusExporter.Internal
open Lib

abbrev Instant := Nat

structure InternalMetrics where
  startTime : Instant
  collectorsTotal : Nat := 0
  collectorStats : BusExporter.InternalMetrics := ∅
  otlpExportsTotal : Nat := 0
  otlpErrorsTotal : Nat := 0
  prometheusScrapesTotal : Nat := 0

namespace InternalMetrics
variable (im : InternalMetrics)

def uptimeSeconds (now : Instant) : Float := F64.asSecsF64 (now - im.startTime)

def header (name help kind : String) : String :=
  "# HELP " ++ name ++ " " ++ help ++ "\n" ++ "# TYPE " ++ name ++ " " ++ kind ++ "\n"

def renderTotal (name help kind value : String) : String :=
  header name help kind ++ (name ++ " " ++ value ++ "\n")

/-- The collector's name goes into the text as it is. -/
def collectorLine (name value : String) (c : String) : String :=
  name ++ "\x7bcollector=\"" ++ c ++ "\"\x7d " ++ value ++ "\n"

def renderCollectors (collectors : List String) (name help kind : String) (value : CollectorStats → String) :
    String :=
  header name help kind ++ String.join (collectors.map fun c =>
    match im.collectorStats.lookup c with
    | some s => collectorLine name (value s) c
    | none => "")

def sortedCollectors (order : RandomState) : List String :=
  ((im.collectorStats.iter order).map (·.1)).mergeSort fun a b => decide (a ≤ b)

def fixed (places : Nat) (x : Float) : String := String.ofList (Decimal.fixedFloat places x)

def renderPrometheus (order : RandomState) (now : Instant) : String :=
  let collectors := im.sortedCollectors order
  renderTotal "bus_exporter_collectors_total" "Total number of configured collectors" "gauge"
      (toString im.collectorsTotal) ++
    renderTotal "bus_exporter_uptime_seconds" "Seconds since exporter started" "gauge"
      (fixed 1 (im.uptimeSeconds now)) ++
    (if collectors.isEmpty then ""
      else
        im.renderCollectors collectors "bus_exporter_polls_total" "Total poll cycles per collector" "counter"
            (fun s => toString s.pollsTotal) ++
          im.renderCollectors collectors "bus_exporter_polls_success_total"
            "Successful poll cycles per collector" "counter" (fun s => toString s.pollsSuccess) ++
          im.renderCollectors collectors "bus_exporter_polls_error_total"
            "Poll cycles with errors per collector" "counter" (fun s => toString s.pollsError) ++
          im.renderCollectors collectors "bus_exporter_modbus_requests_total"
            "Total read requests per collector" "counter" (fun s => toString s.readRequests) ++
          im.renderCollectors collectors "bus_exporter_modbus_errors_total"
            "Failed read requests per collector" "counter" (fun s => toString s.readErrors) ++
          im.renderCollectors collectors "bus_exporter_poll_duration_seconds"
            "Duration of the last poll cycle in seconds" "gauge" (fun s => fixed 6 s.lastPollDurationSecs)) ++
    renderTotal "bus_exporter_otlp_exports_total" "Total OTLP export attempts" "counter"
      (toString im.otlpExportsTotal) ++
    renderTotal "bus_exporter_otlp_errors_total" "Failed OTLP exports" "counter"
      (toString im.otlpErrorsTotal) ++
    renderTotal "bus_exporter_prometheus_scrapes_total" "Total Prometheus scrape requests" "counter"
      (toString im.prometheusScrapesTotal)

def metricValue (clock : SystemTime) (name description : String) (metricType : Metrics.MetricType)
    (labels : BTreeMap String) (value : Float) : MetricValue :=
  { name, value, metricType, labels, description, unit := "", updatedAt := clock }

def collectorValues (clock : SystemTime) (c : String) (s : CollectorStats) : List MetricValue :=
  let labels : BTreeMap String := (∅ : BTreeMap String).insert "collector" c
  let counterMetrics :=
    [("bus_exporter_polls_total", s.pollsTotal, "Total poll cycles per collector"),
      ("bus_exporter_polls_success_total", s.pollsSuccess, "Successful poll cycles per collector"),
      ("bus_exporter_polls_error_total", s.pollsError, "Poll cycles with errors per collector"),
      ("bus_exporter_modbus_requests_total", s.readRequests, "Total read requests per collector"),
      ("bus_exporter_modbus_errors_total", s.readErrors, "Failed read requests per collector")]
  counterMetrics.map (fun (name, val, desc) => metricValue clock name desc .counter labels (F64.ofU64 val)) ++
    [metricValue clock "bus_exporter_poll_duration_seconds" "Duration of the last poll cycle in seconds" .gauge
      labels s.lastPollDurationSecs]

def toMetricValues (order : RandomState) (now : Instant) (clock : SystemTime) : List MetricValue :=
  [metricValue clock "bus_exporter_collectors_total" "Total number of configured collectors" .gauge ∅
      (F64.ofU64 im.collectorsTotal),
    metricValue clock "bus_exporter_uptime_seconds" "Seconds since exporter started" .gauge ∅
      (im.uptimeSeconds now)] ++
  (im.collectorStats.iter order).flatMap (fun e => collectorValues clock e.1 e.2) ++
  [metricValue clock "bus_exporter_otlp_exports_total" "Total OTLP export attempts" .counter ∅
      (F64.ofU64 im.otlpExportsTotal),
    metricValue clock "bus_exporter_otlp_errors_total" "Failed OTLP exports" .counter ∅
      (F64.ofU64 im.otlpErrorsTotal),
    metricValue clock "bus_exporter_prometheus_scrapes_total" "Total Prometheus scrape requests" .counter ∅
      (F64.ofU64 im.prometheusScrapesTotal)]

end InternalMetrics
end BusExporter.Internal
