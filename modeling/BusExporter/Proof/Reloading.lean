import BusExporter.Lib.Decimal
import BusExporter.Proof.RoundTrip

/-! The YAML that show-config prints, loaded as a configuration. -/

namespace BusExporter
open Lib Serde Config

namespace Config

section Plain
variable (serializers : Serializers)

theorem MetricConfig.serialize_plain (m : MetricConfig) :
    m.serialize.any (!·.isEnd) = true ∧ endsPlain m.serialize = true := by
  constructor
  · exact map_solid _
  · exact endsPlain_map List.getLast?_concat rfl

theorem CollectorConfig.serialize_plain (order : RandomState) (c : CollectorConfig) :
    (c.serialize serializers order).any (!·.isEnd) = true ∧ endsPlain (c.serialize serializers order) = true := by
  have metrics : endsPlain (seq (c.metrics.map MetricConfig.serialize)) = true := by
    apply endsPlain_seq
    intro item member
    obtain ⟨m, _, rfl⟩ := List.mem_map.mp member
    exact m.serialize_plain
  constructor
  · exact map_solid _
  · rw [← metrics]
    apply endsPlain_map
    · rw [List.getLast?_append_of_ne_nil _ (List.cons_ne_nil _ _)]
      rfl
    · rfl

end Plain

theorem serialize_plain (serializers : Serializers) (orders : WalkOrders) (config : Config) :
    endsPlain (config.serialize serializers orders) = true := by
  have collectors : endsPlain (seq (config.collectors.zipIdx.map fun c =>
      c.1.serialize serializers (orders.labels c.2))) = true := by
    apply endsPlain_seq
    intro item member
    obtain ⟨c, _, rfl⟩ := List.mem_map.mp member
    exact c.1.serialize_plain serializers (orders.labels c.2)
  rw [← collectors]
  exact endsPlain_map rfl rfl

theorem validateExporters_reread (order : RandomState) (exporters : ExportersConfig) :
    validateExporters (exporters.reread order) = validateExporters exporters := by
  obtain ⟨otlp, prometheus, mqtt⟩ := exporters
  cases otlp <;> cases mqtt <;> rfl

theorem validateCollectors_reread (labels : Nat → RandomState) (names : List String)
    (collectors : List (CollectorConfig × Nat)) :
    validateCollectors names (collectors.map fun (c, place) => c.reread (labels place)) =
      validateCollectors names (collectors.map (·.1)) := by
  induction collectors generalizing names with
  | nil => rfl
  | cons c collectors ih =>
      have later := ih (c.1.name :: names)
      simp only [List.map_cons, validateCollectors]
      change (do
        bailIf (names.contains c.1.name) s!"duplicate collector name: {c.1.name}"
        validateCollector c.1
        validateCollectors (c.1.name :: names)
          (collectors.map fun (c : CollectorConfig × Nat) => c.1.reread (labels c.2))) = _
      rw [later]

theorem validate_reread (orders : WalkOrders) (config : Config) :
    (config.reread orders).validate = config.validate := by
  have empty : (config.collectors.zipIdx.map fun (c, place) =>
      CollectorConfig.reread (orders.labels place) c).isEmpty = config.collectors.isEmpty := by
    cases config.collectors <;> rfl
  have collectors := validateCollectors_reread orders.labels [] config.collectors.zipIdx
  rw [List.zipIdx_map_fst] at collectors
  rw [Config.validate, Config.validate, reread, validateExporters_reread, empty, collectors]

section Again
variable (serializers : Serializers)

def Retraces (orders again : WalkOrders) (config : Config) : Prop :=
  (config.globalLabels.rebuilt orders.globalLabels).iter again.globalLabels =
      config.globalLabels.iter orders.globalLabels ∧
    (∀ otlp, config.exporters.otlp = some otlp →
      (otlp.headers.rebuilt orders.headers).iter again.headers = otlp.headers.iter orders.headers) ∧
    ∀ (place : Nat) (c : CollectorConfig), config.collectors[place]? = some c →
      (c.labels.rebuilt (orders.labels place)).iter (again.labels place) = c.labels.iter (orders.labels place)

theorem exists_retraces (orders : WalkOrders) (config : Config) : ∃ again, Retraces orders again config := by
  have global := HashMap.exists_iter_rebuilt orders.globalLabels orders.globalLabels config.globalLabels
  obtain ⟨globalLabels, globalSame⟩ := global
  have headers : ∃ headers, ∀ otlp, config.exporters.otlp = some otlp →
      (otlp.headers.rebuilt orders.headers).iter headers = otlp.headers.iter orders.headers := by
    cases config.exporters.otlp with
    | none => exact ⟨[], fun otlp absent => nomatch absent⟩
    | some otlp =>
        obtain ⟨headers, same⟩ := HashMap.exists_iter_rebuilt orders.headers orders.headers otlp.headers
        refine ⟨headers, fun other present => ?_⟩
        cases present
        exact same
  have labels : ∀ place : Nat, ∃ labels, ∀ c : CollectorConfig, config.collectors[place]? = some c →
      (c.labels.rebuilt (orders.labels place)).iter labels = c.labels.iter (orders.labels place) := by
    intro place
    cases config.collectors[place]? with
    | none => exact ⟨[], fun c absent => nomatch absent⟩
    | some c =>
        obtain ⟨labels, same⟩ := HashMap.exists_iter_rebuilt (orders.labels place) (orders.labels place) c.labels
        refine ⟨labels, fun other present => ?_⟩
        cases present
        exact same
  obtain ⟨headers, headersSame⟩ := headers
  choose labels labelsSame using labels
  exact ⟨⟨globalLabels, headers, labels⟩, globalSame, headersSame, labelsSame⟩

theorem serializeStrings_rebuilt {order again : RandomState} {m : HashMap String String}
    (same : (m.rebuilt order).iter again = m.iter order) :
    serializeStrings again (m.rebuilt order) = serializeStrings order m := by
  rw [serializeStrings, same, serializeStrings]

theorem MqttExporterConfig.serialize_reread (mqtt : MqttExporterConfig) :
    mqtt.reread.serialize serializers = mqtt.serialize serializers := by
  obtain ⟨enabled, endpoint, clientId, topicPrefix, auth, tls, qos, retain, interval, timeout⟩ := mqtt
  cases auth <;> rfl

theorem ExportersConfig.serialize_reread {order again : RandomState} {exporters : ExportersConfig}
    (same : ∀ otlp, exporters.otlp = some otlp → (otlp.headers.rebuilt order).iter again = otlp.headers.iter order) :
    (exporters.reread order).serialize serializers again = exporters.serialize serializers order := by
  obtain ⟨otlp, prometheus, mqtt⟩ := exporters
  have otlpSame : Serde.optional "otlp" (OtlpExporterConfig.serialize serializers again)
        (otlp.map (OtlpExporterConfig.reread order)) =
      Serde.optional "otlp" (OtlpExporterConfig.serialize serializers order) otlp := by
    cases otlp with
    | none => rfl
    | some otlp =>
        rw [Option.map_some, Serde.optional, Serde.optional, OtlpExporterConfig.serialize, OtlpExporterConfig.reread,
          serializeStrings_rebuilt (same otlp rfl), OtlpExporterConfig.serialize]
  have mqttSame : Serde.optional "mqtt" (MqttExporterConfig.serialize serializers)
        (mqtt.map MqttExporterConfig.reread) =
      Serde.optional "mqtt" (MqttExporterConfig.serialize serializers) mqtt := by
    cases mqtt with
    | none => rfl
    | some mqtt => rw [Option.map_some, Serde.optional, Serde.optional, mqtt.serialize_reread]
  rw [ExportersConfig.serialize, ExportersConfig.reread, otlpSame, mqttSame, ExportersConfig.serialize]

theorem serialize_reread {orders again : WalkOrders} {config : Config} (retraces : Retraces orders again config) :
    (config.reread orders).serialize serializers again = config.serialize serializers orders := by
  obtain ⟨global, headers, labels⟩ := retraces
  have collectors : (config.reread orders).collectors.zipIdx.map (fun (c, place) =>
        c.serialize serializers (again.labels place)) =
      config.collectors.zipIdx.map fun (c, place) => c.serialize serializers (orders.labels place) := by
    apply List.ext_getElem?
    intro place
    have printed : ∀ c, config.collectors[place]? = some c →
        (c.reread (orders.labels place)).serialize serializers (again.labels place) =
          c.serialize serializers (orders.labels place) := by
      intro c present
      rw [CollectorConfig.serialize, CollectorConfig.reread, serializeStrings_rebuilt (labels place c present),
        CollectorConfig.serialize]
    simp only [reread, List.getElem?_map, List.getElem?_zipIdx, Nat.zero_add]
    cases present : config.collectors[place]? with
    | none => rfl
    | some c =>
        simp only [Option.map_some]
        rw [printed c present]
  have exporters := ExportersConfig.serialize_reread serializers headers
  rw [Config.serialize, collectors]
  simp only [reread]
  rw [exporters, serializeStrings_rebuilt global, Config.serialize]

end Again

structure Readable (serializers : Serializers) (parseDuration : String → Option Duration) (files : Files) : Prop where
  durations : ∀ d, parseDuration (serializers.formatDuration d) = some d
  documents : ∀ (document : Document) (text : String), serializers.toYaml document.calls = .ok text →
    ∀ config, Config.deserialize parseDuration document = some config → files.parseConfig text = .ok config
  -- no blanks end the text but the line break, unless a string may have written them
  lineEnd : ∀ (document : Document) (text : String), serializers.toYaml document.calls = .ok text →
    endsPlain document.calls = true → trimEnd text ++ "\n" = text

variable {serializers : Serializers} {parseDuration : String → Option Duration} {files : Files}

theorem parse_printed (readable : Readable serializers parseDuration files) {orders : WalkOrders} {config : Config}
    {text : String} (printed : serializers.print (config.serialize serializers orders) .yaml = .ok text) :
    files.parseConfig text = .ok (config.reread orders) := by
  obtain ⟨document, calls, read⟩ := reads readable.durations orders config
  rw [Serializers.print, ← calls] at printed
  cases written : serializers.toYaml document.calls with
  | error e =>
      rw [written] at printed
      cases printed
  | ok output =>
      rw [written] at printed
      cases printed
      have plain : endsPlain document.calls = true := by
        rw [calls]
        exact serialize_plain serializers orders config
      have whole := readable.lineEnd document output written plain
      simp only [whole]
      exact readable.documents document output written (config.reread orders) read

theorem loadForPull_of {path content : String} {config : Config} {collectors : List CollectorConfig}
    (stored : files.readToString path = .ok content) (parsed : files.parseConfig content = .ok config)
    (resolved : resolveAll files ((Path.parent path).getD ".") config.collectors = .ok collectors) :
    Config.loadForPull files path = .ok { config with collectors } := by
  have opened : (files.readToString path).mapError (·.context s!"reading {path}") = .ok content := by
    rw [stored]
    rfl
  have understood : (files.parseConfig content).mapError (·.context "parsing config YAML") = .ok config := by
    rw [parsed]
    rfl
  simp only [Config.loadForPull, opened, understood, resolved, bind, Except.bind]

theorem reread_resolved (orders : WalkOrders) {config : Config}
    (distinct : ∀ c ∈ config.collectors, DistinctNames c.metrics) :
    ∀ c ∈ (config.reread orders).collectors, c.metricsFiles = none ∧ DistinctNames c.metrics := by
  intro c member
  obtain ⟨original, listed, rfl⟩ := List.mem_map.mp member
  have known : original.1 ∈ config.collectors := List.fst_mem_of_mem_zipIdx listed
  exact ⟨rfl, distinct original.1 known⟩

theorem load_printed (readable : Readable serializers parseDuration files) {orders : WalkOrders} {config : Config}
    (distinct : ∀ c ∈ config.collectors, DistinctNames c.metrics) {path text : String}
    (printed : serializers.print (config.serialize serializers orders) .yaml = .ok text)
    (stored : files.readToString path = .ok text) :
    Config.loadForPull files path = .ok (config.reread orders) := by
  have parsed := parse_printed readable printed
  have resolved := resolveAll_resolved files ((Path.parent path).getD ".") (reread_resolved orders distinct)
  rw [loadForPull_of stored parsed resolved]

variable {compile : String → Result (String → Bool)} {collectorFilter metricFilter : Option String}

theorem filterCollectors_metrics {collectors filtered : List CollectorConfig}
    (done : filterCollectors compile collectors collectorFilter metricFilter = .ok filtered) :
    ∀ c ∈ filtered, c.metrics.isEmpty = false ∧ ∃ whole ∈ collectors, c.metrics.Sublist whole.metrics := by
  obtain ⟨collectorRe, _, rest⟩ := except_bind_ok done
  obtain ⟨metricRe, _, last⟩ := except_bind_ok rest
  cases last
  intro c member
  rw [List.mem_filter] at member
  obtain ⟨whole, named, rfl⟩ := List.mem_map.mp member.1
  refine ⟨Bool.not_eq_true' _ ▸ member.2, whole, (List.mem_filter.mp named).1, List.filter_sublist⟩

theorem filterCollectors_all {collectors : List CollectorConfig}
    (metrics : ∀ c ∈ collectors, c.metrics.isEmpty = false) :
    filterCollectors compile collectors none none = .ok collectors := by
  have named : collectors.filter (fun c => matching none c.name) = collectors :=
    List.filter_eq_self.mpr fun c _ => rfl
  have kept : (collectors.map fun c => { c with metrics := c.metrics.filter fun m => matching none m.name }) =
      collectors := by
    have same : ∀ c ∈ collectors, { c with metrics := c.metrics.filter fun m => matching none m.name } = id c := by
      intro c _
      have all : c.metrics.filter (fun m => matching none m.name) = c.metrics :=
        List.filter_eq_self.mpr fun m _ => rfl
      rw [all, id]
    rw [List.map_congr_left same, List.map_id]
  have filled : collectors.filter (fun c => !c.metrics.isEmpty) = collectors := by
    rw [List.filter_eq_self]
    intro c member
    rw [metrics c member]
    rfl
  change Except.ok _ = _
  rw [named, kept, filled]

theorem showLoaded_ok {orders : WalkOrders} {config : Config} {format : OutputFormat} {printed : Printed}
    (shown : showLoaded serializers compile orders config collectorFilter metricFilter format = (.ok (), printed)) :
    ∃ filtered, filterCollectors compile config.collectors collectorFilter metricFilter = .ok filtered ∧
      serializers.print (Config.serialize serializers orders { config with collectors := filtered }) format =
        .ok printed.stdout := by
  unfold showLoaded at shown
  cases selecting : filterCollectors compile config.collectors collectorFilter metricFilter with
  | error e =>
      rw [selecting] at shown
      cases shown
  | ok filtered =>
      rw [selecting] at shown
      simp only at shown
      refine ⟨filtered, rfl, ?_⟩
      cases printing : serializers.print (Config.serialize serializers orders
          { config with collectors := filtered }) format with
      | error e =>
          rw [printing] at shown
          cases shown
      | ok stdout =>
          rw [printing] at shown
          cases shown
          rfl

theorem showConfigCommand_ok {environment : Environment} {orders : WalkOrders} {configPath : Option String}
    {format : OutputFormat} {printed : Printed}
    (shown : showConfigCommand serializers compile environment orders configPath collectorFilter metricFilter format =
      (.ok (), printed)) :
    ∃ config, loadConfig environment configPath = .ok config ∧
      showLoaded serializers compile orders config collectorFilter metricFilter format = (.ok (), printed) := by
  unfold showConfigCommand at shown
  cases loading : loadConfig environment configPath with
  | error e =>
      rw [loading] at shown
      cases shown
  | ok config =>
      rw [loading] at shown
      exact ⟨config, rfl, shown⟩

theorem shown_again {orders again : WalkOrders} {config : Config} (retraces : Retraces orders again config)
    (metrics : ∀ c ∈ config.collectors, c.metrics.isEmpty = false) {text : String}
    (printed : serializers.print (config.serialize serializers orders) .yaml = .ok text) :
    showLoaded serializers compile again (config.reread orders) none none .yaml = (.ok (), ⟨text, ""⟩) := by
  have kept : ∀ c ∈ (config.reread orders).collectors, c.metrics.isEmpty = false := by
    intro c member
    obtain ⟨original, listed, rfl⟩ := List.mem_map.mp member
    exact metrics original.1 (List.fst_mem_of_mem_zipIdx listed)
  have same : Config.serialize serializers again { config.reread orders with
      collectors := (config.reread orders).collectors } = config.serialize serializers orders :=
    serialize_reread serializers retraces
  rw [showLoaded, filterCollectors_all kept]
  simp only [same, printed]
  simp

/-- The configuration that show-config prints can be stored and loaded. It passes the same validation, and
is printed as it was. -/
theorem shown_config_reloads {environment : Environment} {orders : WalkOrders} {configPath : Option String}
    (readable : Readable serializers parseDuration files) {printed : Printed}
    (shown : showConfigCommand serializers compile environment orders configPath collectorFilter metricFilter .yaml =
      (.ok (), printed))
    {path : String} (stored : files.readToString path = .ok printed.stdout) :
    ∃ config filtered, loadConfig environment configPath = .ok config ∧
      filterCollectors compile config.collectors collectorFilter metricFilter = .ok filtered ∧
      let kept := { config with collectors := filtered }
      Config.loadForPull files path = .ok (kept.reread orders) ∧
        (Config.load files path).toOption = (if kept.validate = .ok () then some (kept.reread orders) else none) ∧
        ∃ again, showLoaded serializers compile again (kept.reread orders) none none .yaml =
          (.ok (), ⟨printed.stdout, ""⟩) := by
  obtain ⟨config, loading, showing⟩ := showConfigCommand_ok shown
  obtain ⟨filtered, selecting, printing⟩ := showLoaded_ok showing
  have metrics := filterCollectors_metrics selecting
  have distinct : ∀ c ∈ filtered, DistinctNames c.metrics := by
    intro c member
    obtain ⟨_, whole, listed, part⟩ := metrics c member
    obtain ⟨path, _, pulling⟩ := except_bind_ok loading
    exact (loadForPull_distinct pulling listed).sublist (part.map (·.name))
  have loaded := load_printed readable distinct printing stored
  obtain ⟨again, retraces⟩ := exists_retraces orders { config with collectors := filtered }
  refine ⟨config, filtered, loading, selecting, loaded, ?_, again, ?_⟩
  · have valid := validate_reread orders { config with collectors := filtered }
    rw [Config.load, loaded]
    simp only [bind, Except.bind, valid]
    cases Config.validate { config with collectors := filtered } with
    | ok _ => rfl
    | error e => rfl
  · exact shown_again retraces (fun c member => (metrics c member).1) printing

end Config
deriving instance DecidableEq for Call

def writeDuration (d : Duration) : String :=
  String.ofList
    (if d % 1000000000 = 0 then Nat.toDigits 10 (d / 1000000000) ++ ['s'] else Nat.toDigits 10 d ++ ['n', 's'])

def readDuration (text : String) : Option Duration :=
  match Decimal.readDigits text.toList.dropLast with
  | some seconds => some (seconds * 1000000000)
  | none => Decimal.readDigits text.toList.dropLast.dropLast

theorem readDuration_writeDuration (d : Duration) : readDuration (writeDuration d) = some d := by
  rw [writeDuration, readDuration, String.toList_ofList]
  split_ifs with whole
  · rw [List.dropLast_concat, Decimal.readDigits_toDigits]
    exact congrArg some (Nat.div_mul_cancel (Nat.dvd_of_mod_eq_zero whole))
  · have nanos : Nat.toDigits 10 d ++ ['n', 's'] = (Nat.toDigits 10 d ++ ['n']) ++ ['s'] := by
      rw [List.append_assoc]
      rfl
    have letter : Decimal.readDigits (Nat.toDigits 10 d ++ ['n']) = none := by
      rw [Decimal.readDigits, List.all_append]
      simp
    rw [nanos, List.dropLast_concat, letter, List.dropLast_concat, Decimal.readDigits_toDigits]

def meterConfig : Config where
  exporters :=
    { mqtt := some
        { enabled := true
          endpoint := some "mqtt://localhost"
          auth := some { username := "exporter", password := "secret" } } }
  collectors :=
    [{ name := "meter"
       protocol := .modbusTcp "127.0.0.1:502"
       slaveId := some 1
       labels := (∅ : HashMap String String).insert "site" "plant"
       metrics :=
         [{ name := "volts", metricType := .gauge, registerType := some .holding, address := some 0,
            dataType := .u16 }] }]

def meterLines : String :=
  "global_labels: \x7b\x7d
logging:
  level: info
  output: syslog
  syslog_facility: daemon
exporters:
  mqtt:
    enabled: true
    endpoint: mqtt://localhost
    topic_prefix: modbus/metrics
    auth:
      username: exporter
      password: '***'
    qos: 1
    retain: false
    interval: 10s
    timeout: 5s
collectors:
- name: meter
  protocol:
    type: modbus-tcp
    endpoint: 127.0.0.1:502
  slave_id: 1
  polling_interval: 10s
  init_writes: []
  pre_poll: []
  labels:
    site: plant
  metrics:
  - name: volts
    description: ''
    type: gauge
    register_type: holding
    address: 0
    data_type: u16
    byte_order: big_endian
    scale: 1.0
    offset: 0.0
    unit: ''
    command: []
    response_offset: "

def meterText : String := meterLines ++ "0\n"

def meterCalls : List Call :=
  meterConfig.serialize ⟨writeDuration, fun _ => .ok "", fun _ => .ok ""⟩ {}

def meterSerializers : Serializers where
  formatDuration := writeDuration
  toYaml calls := if calls = meterCalls then .ok meterText else .error ⟨"not written", []⟩
  toJsonPretty _ := .error ⟨"not written", []⟩

def meterFiles : Files where
  readToString path := if path = "shown.yaml" then .ok meterText else .error ⟨"no such file", []⟩
  parseConfig content := if content = meterText then .ok (meterConfig.reread {}) else .error ⟨"not read", []⟩
  parseMetricsFile _ := .error ⟨"not read", []⟩

def meterEnvironment : Environment where
  files :=
    { readToString := fun _ => .ok ""
      parseConfig := fun _ => .ok meterConfig
      parseMetricsFile := fun _ => .error ⟨"no metrics file", []⟩ }
  fileExists path := path = "config.yaml"
  home := "/root"

theorem trimEnd_zero (lines : String) : trimEnd (lines ++ "0\n") ++ "\n" = lines ++ "0\n" := by
  have last : (lines ++ "0\n").toList = lines.toList ++ ['0', '\n'] := String.toList_append
  apply String.toList_injective
  rw [trimEnd, last, List.reverse_append]
  simp [isWhitespace]

theorem meter_written : meterSerializers.toYaml meterCalls = .ok meterText := by
  simp only [meterSerializers, if_true]

theorem meter_stored : meterFiles.readToString "shown.yaml" = .ok meterText := by
  simp only [meterFiles, if_true]

theorem meter_shown :
    showConfigCommand meterSerializers (fun _ => .error ⟨"no pattern", []⟩) meterEnvironment {} (some "config.yaml")
      none none .yaml = (.ok (), ⟨meterText, ""⟩) := by
  have printed : meterSerializers.print (Config.serialize meterSerializers {} meterConfig) .yaml = .ok meterText := by
    have written : meterSerializers.toYaml (Config.serialize meterSerializers {} meterConfig) = .ok meterText :=
      meter_written
    rw [Serializers.print, written]
    exact congrArg Except.ok (trimEnd_zero meterLines)
  have loaded : loadConfig meterEnvironment (some "config.yaml") = .ok meterConfig := rfl
  have kept : ∀ c ∈ meterConfig.collectors, c.metrics.isEmpty = false := by simp [meterConfig]
  rw [showConfigCommand, loaded]
  simp only [showLoaded, filterCollectors_all kept]
  rw [printed]
  rfl

theorem meter_readable : Readable meterSerializers readDuration meterFiles := by
  have written (document : Document) (text : String)
      (done : meterSerializers.toYaml document.calls = .ok text) : document.calls = meterCalls ∧ text = meterText := by
    simp only [meterSerializers] at done
    split_ifs at done with same
    exact ⟨same, (Except.ok.inj done).symm⟩
  constructor
  · exact readDuration_writeDuration
  · intro document text done config read
    obtain ⟨calls, rfl⟩ := written document text done
    have durations : ∀ d, readDuration (meterSerializers.formatDuration d) = some d := readDuration_writeDuration
    have reread := (reads durations {} meterConfig).read calls
    rw [reread] at read
    cases read
    simp only [meterFiles, if_true]
  · intro document text done _
    obtain ⟨_, rfl⟩ := written document text done
    exact trimEnd_zero meterLines

theorem meter_reloads :
    ∃ config filtered, loadConfig meterEnvironment (some "config.yaml") = .ok config ∧
      filterCollectors (fun _ => .error ⟨"no pattern", []⟩) config.collectors none none = .ok filtered ∧
      let kept := { config with collectors := filtered }
      Config.loadForPull meterFiles "shown.yaml" = .ok (kept.reread {}) ∧
        (Config.load meterFiles "shown.yaml").toOption =
          (if kept.validate = .ok () then some (kept.reread {}) else none) ∧
        ∃ again, showLoaded meterSerializers (fun _ => .error ⟨"no pattern", []⟩) again (kept.reread {}) none none
          .yaml = (.ok (), ⟨meterText, ""⟩) :=
  shown_config_reloads meter_readable meter_shown meter_stored

end BusExporter
