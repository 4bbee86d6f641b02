import BusExporter.Lib.Pretty
import BusExporter.Model.ShowConfig

/-! What show-config prints of the secrets in a configuration: nothing of the password, and the values of
the headers as they are. -/

namespace BusExporter
open Lib Config

namespace Config

def OtlpExporterConfig.erased (otlp : OtlpExporterConfig) : OtlpExporterConfig :=
  { otlp with headers := otlp.headers.mapValues fun _ => "" }

def MqttAuthConfig.erased (auth : MqttAuthConfig) : MqttAuthConfig := { auth with password := "" }

def MqttExporterConfig.erased (mqtt : MqttExporterConfig) : MqttExporterConfig :=
  { mqtt with auth := mqtt.auth.map MqttAuthConfig.erased }

def ExportersConfig.erased (exporters : ExportersConfig) : ExportersConfig :=
  { exporters with
    otlp := exporters.otlp.map OtlpExporterConfig.erased
    mqtt := exporters.mqtt.map MqttExporterConfig.erased }

def erased (config : Config) : Config := { config with exporters := config.exporters.erased }

def DifferInSecrets (config config' : Config) : Prop := config.erased = config'.erased

def headers (config : Config) : Option (HashMap String String) := config.exporters.otlp.map (·.headers)

theorem DifferInSecrets.collectors {config config' : Config} (differ : DifferInSecrets config config') :
    config.collectors = config'.collectors := by
  have same : config.erased = config'.erased := differ
  have collectors := congrArg Config.collectors same
  exact collectors

theorem DifferInSecrets.filtered {config config' : Config} (differ : DifferInSecrets config config')
    (filtered : List CollectorConfig) :
    DifferInSecrets { config with collectors := filtered } { config' with collectors := filtered } := by
  have same : config.erased = config'.erased := differ
  have replaced := congrArg (fun c : Config => { c with collectors := filtered }) same
  exact replaced

variable (serializers : Serializers)

theorem MqttExporterConfig.serialize_erased (mqtt : MqttExporterConfig) :
    mqtt.erased.serialize serializers = mqtt.serialize serializers := by
  obtain ⟨enabled, endpoint, clientId, topicPrefix, auth, tls, qos, retain, interval, timeout⟩ := mqtt
  cases auth <;> rfl

theorem optional_mqtt (mqtt : Option MqttExporterConfig) :
    Serde.optional "mqtt" (MqttExporterConfig.serialize serializers) (mqtt.map MqttExporterConfig.erased) =
      Serde.optional "mqtt" (MqttExporterConfig.serialize serializers) mqtt := by
  cases mqtt with
  | none => rfl
  | some mqtt => simp only [Option.map_some, Serde.optional, MqttExporterConfig.serialize_erased]

theorem OtlpExporterConfig.eq_of_headers {otlp otlp' : OtlpExporterConfig} (differ : otlp.erased = otlp'.erased)
    (same : otlp.headers = otlp'.headers) : otlp = otlp' := by
  obtain ⟨enabled, endpoint, timeout, interval, headers⟩ := otlp
  obtain ⟨enabled', endpoint', timeout', interval', headers'⟩ := otlp'
  simp only [OtlpExporterConfig.erased, OtlpExporterConfig.mk.injEq] at differ same ⊢
  exact ⟨differ.1, differ.2.1, differ.2.2.1, differ.2.2.2.1, same⟩

theorem serialize_mqtt {exporters exporters' : ExportersConfig} (differ : exporters.erased = exporters'.erased) :
    Serde.optional "mqtt" (MqttExporterConfig.serialize serializers) exporters.mqtt =
      Serde.optional "mqtt" (MqttExporterConfig.serialize serializers) exporters'.mqtt := by
  rw [← optional_mqtt, ← optional_mqtt serializers exporters'.mqtt]
  exact congrArg (fun e : ExportersConfig => Serde.optional "mqtt" (MqttExporterConfig.serialize serializers) e.mqtt)
    differ

theorem prometheus_same {exporters exporters' : ExportersConfig} (differ : exporters.erased = exporters'.erased) :
    exporters.prometheus = exporters'.prometheus := by
  have same := congrArg ExportersConfig.prometheus differ
  exact same

theorem otlp_cases {exporters exporters' : ExportersConfig} (differ : exporters.erased = exporters'.erased) :
    exporters.otlp = none ∧ exporters'.otlp = none ∨
      ∃ otlp otlp', exporters.otlp = some otlp ∧ exporters'.otlp = some otlp' ∧ otlp.erased = otlp'.erased := by
  have same := congrArg ExportersConfig.otlp differ
  simp only [ExportersConfig.erased] at same
  cases here : exporters.otlp with
  | none =>
      rw [here, Option.map_none, eq_comm, Option.map_eq_none_iff] at same
      exact .inl ⟨rfl, same⟩
  | some otlp =>
      rw [here, Option.map_some, eq_comm] at same
      obtain ⟨otlp', there, erased⟩ := Option.map_eq_some_iff.mp same
      exact .inr ⟨otlp, otlp', rfl, there, erased.symm⟩

theorem serialize_of_headers {config config' : Config} (differ : DifferInSecrets config config')
    (same : config.headers = config'.headers) (orders : WalkOrders) :
    config.serialize serializers orders = config'.serialize serializers orders := by
  obtain ⟨globalLabels, logging, exporters, collectors⟩ := config
  obtain ⟨globalLabels', logging', exporters', collectors'⟩ := config'
  simp only [DifferInSecrets, erased, Config.mk.injEq] at differ
  obtain ⟨rfl, rfl, erased, rfl⟩ := differ
  have prometheus := prometheus_same erased
  have otlp : exporters.otlp = exporters'.otlp := by
    rcases otlp_cases erased with ⟨none, none'⟩ | ⟨otlp, otlp', some, some', fields⟩
    · rw [none, none']
    · simp only [headers, some, some', Option.map_some, Option.some.injEq] at same
      rw [some, some', OtlpExporterConfig.eq_of_headers fields same]
  simp only [Config.serialize, ExportersConfig.serialize, otlp, prometheus, serialize_mqtt serializers erased]

theorem strings_serializeStrings (order : RandomState) (m : HashMap String String) :
    Serde.strings (serializeStrings order m) = (m.iter order).flatMap fun e => [e.1, e.2] := by
  rw [serializeStrings, Serde.strings_map]
  induction m.iter order with
  | nil => rfl
  | cons e entries ih =>
      rw [List.flatMap_cons, ← ih]
      rfl

theorem flatMap_pairs_inj {entries entries' : List (Σ _ : String, String)}
    (same : (entries.flatMap fun e => [e.1, e.2]) = entries'.flatMap fun e => [e.1, e.2]) :
    entries = entries' := by
  induction entries generalizing entries' with
  | nil => cases entries' with
    | nil => rfl
    | cons e' entries' => cases same
  | cons e entries ih => cases entries' with
    | nil => cases same
    | cons e' entries' =>
        obtain ⟨key, value⟩ := e
        obtain ⟨key', value'⟩ := e'
        simp only [List.flatMap_cons, List.cons_append, List.nil_append, List.cons.injEq] at same
        obtain ⟨rfl, rfl, rest⟩ := same
        rw [ih rest]

theorem iter_canonical (m : HashMap String String) : m.iter [] = m.entries := by
  rw [HashMap.iter]
  cases m.entries <;> rfl

theorem otlp_headers_of_strings {otlp otlp' : OtlpExporterConfig} (differ : otlp.erased = otlp'.erased)
    (same : Serde.strings (otlp.serialize serializers []) = Serde.strings (otlp'.serialize serializers [])) :
    otlp.headers = otlp'.headers := by
  obtain ⟨enabled, endpoint, timeout, interval, headers⟩ := otlp
  obtain ⟨enabled', endpoint', timeout', interval', headers'⟩ := otlp'
  simp only [OtlpExporterConfig.erased, OtlpExporterConfig.mk.injEq] at differ
  obtain ⟨rfl, rfl, rfl, rfl, -⟩ := differ
  have last {headers : HashMap String String} :
      OtlpExporterConfig.serialize serializers [] ⟨enabled, endpoint, timeout, interval, headers⟩ =
        Serde.map (([("enabled", serializeBool enabled)] ++ Serde.optional "endpoint" serializeStr endpoint ++
          [("timeout", serializeDuration serializers timeout),
            ("interval", serializeDuration serializers interval)]) ++
          ("headers", serializeStrings [] headers) :: []) := by
    simp only [OtlpExporterConfig.serialize, List.append_assoc, List.cons_append, List.nil_append]
  rw [last, last] at same
  have values := Serde.strings_field _ "headers" [] same
  rw [strings_serializeStrings, strings_serializeStrings, iter_canonical, iter_canonical] at values
  exact AList.ext (flatMap_pairs_inj values)

theorem headers_of_strings {config config' : Config} (differ : DifferInSecrets config config')
    (same : Serde.strings (config.serialize serializers {}) =
      Serde.strings (config'.serialize serializers {})) : config.headers = config'.headers := by
  obtain ⟨globalLabels, logging, exporters, collectors⟩ := config
  obtain ⟨globalLabels', logging', exporters', collectors'⟩ := config'
  simp only [DifferInSecrets, erased, Config.mk.injEq] at differ
  obtain ⟨rfl, rfl, erased, rfl⟩ := differ
  have prometheus := prometheus_same erased
  have inside := Serde.strings_field [_, _] "exporters" [_] same
  rcases otlp_cases erased with ⟨none, none'⟩ | ⟨otlp, otlp', some, some', fields⟩
  · simp only [headers, none, none']
  · simp only [ExportersConfig.serialize, some, some', prometheus, serialize_mqtt serializers erased] at inside
    have inOtlp := Serde.strings_field [] "otlp"
      (Serde.optional "prometheus" PrometheusExporterConfig.serialize exporters'.prometheus ++
        Serde.optional "mqtt" (MqttExporterConfig.serialize serializers) exporters'.mqtt) inside
    simp only [headers, some, some', Option.map_some]
    rw [otlp_headers_of_strings serializers fields inOtlp]

end Config

section Printed
variable (serializers : Serializers) (compile : String → Result (String → Bool))

def WritesAll : Prop :=
  ∀ (config : Config) orders, ∃ text, serializers.toJsonPretty (config.serialize serializers orders) = .ok text

def WritesStrings : Prop :=
  ∀ (config config' : Config) orders orders' text,
    serializers.toJsonPretty (config.serialize serializers orders) = .ok text →
    serializers.toJsonPretty (config'.serialize serializers orders') = .ok text →
      Serde.strings (config.serialize serializers orders) = Serde.strings (config'.serialize serializers orders')

def PrintsAlike (environment environment' : Environment) (configPath configPath' : Option String) : Prop :=
  ∀ orders collectorFilter metricFilter format,
    showConfigCommand serializers compile environment orders configPath collectorFilter metricFilter format =
      showConfigCommand serializers compile environment' orders configPath' collectorFilter metricFilter format

variable {serializers compile}

theorem showLoaded_alike {config config' : Config} (differ : Config.DifferInSecrets config config')
    (same : config.headers = config'.headers) (orders : WalkOrders)
    (collectorFilter metricFilter : Option String) (format : OutputFormat) :
    showLoaded serializers compile orders config collectorFilter metricFilter format =
      showLoaded serializers compile orders config' collectorFilter metricFilter format := by
  unfold showLoaded
  rw [differ.collectors]
  cases filterCollectors compile config'.collectors collectorFilter metricFilter with
  | error e => rfl
  | ok filtered =>
      have calls := Config.serialize_of_headers serializers (differ.filtered filtered) same orders
      simp only [calls]

theorem headers_of_printed (total : WritesAll serializers) (strings : WritesStrings serializers)
    {config config' : Config} (differ : Config.DifferInSecrets config config')
    (same : showLoaded serializers compile {} config none none .json =
      showLoaded serializers compile {} config' none none .json) : config.headers = config'.headers := by
  obtain ⟨filtered, kept⟩ : ∃ filtered, filterCollectors compile config'.collectors none none = .ok filtered :=
    ⟨_, rfl⟩
  obtain ⟨text, written⟩ := total { config with collectors := filtered } {}
  obtain ⟨text', written'⟩ := total { config' with collectors := filtered } {}
  unfold showLoaded at same
  rw [differ.collectors, kept] at same
  simp only [Serializers.print, written, written', Except.map, Prod.mk.injEq, Printed.mk.injEq, true_and,
    String.append_left_inj, and_true] at same
  subst same
  have headers := Config.headers_of_strings serializers (differ.filtered filtered)
    (strings _ _ _ _ _ written written')
  exact headers

/-- Two loadable configurations that differ in secrets only are shown alike, whatever the filters and the
format, exactly when the headers of the OTLP exporter have the same values. -/
theorem shown_alike_iff (total : WritesAll serializers) (strings : WritesStrings serializers)
    {environment environment' : Environment} {configPath configPath' : Option String} {config config' : Config}
    (loaded : loadConfig environment configPath = .ok config)
    (loaded' : loadConfig environment' configPath' = .ok config')
    (differ : Config.DifferInSecrets config config') :
    PrintsAlike serializers compile environment environment' configPath configPath' ↔
      config.headers = config'.headers := by
  unfold PrintsAlike
  simp only [showConfigCommand, loaded, loaded']
  constructor
  · intro alike
    exact headers_of_printed total strings differ (alike {} none none .json)
  · intro same orders collectorFilter metricFilter format
    exact showLoaded_alike differ same orders collectorFilter metricFilter format

end Printed

-- `*` starts an alias, so a text that begins with it is quoted
def yamlScalar : Exposition.Text → Exposition.Text
  | '*' :: text => '\'' :: '*' :: (text ++ ['\''])
  | text => text

def yamlText : Nat → List Call → Exposition.Text
  | _, [] => []
  | depth, .key name :: .beginMap :: .endMap :: calls => entry depth name ++ " {}".toList ++ yamlText depth calls
  | depth, .key name :: .beginMap :: calls => entry depth name ++ yamlText (depth + 1) calls
  | depth, .key name :: .beginSeq :: .endSeq :: calls => entry depth name ++ " []".toList ++ yamlText depth calls
  | depth, .key name :: calls => entry depth name ++ ' ' :: yamlText depth calls
  | depth, .endMap :: calls => yamlText (depth - 1) calls
  | depth, .str value :: calls => yamlScalar value.toList ++ yamlText depth calls
  | depth, .bool value :: calls => (if value then "true" else "false").toList ++ yamlText depth calls
  | depth, .unsigned value :: calls => Nat.toDigits 10 value ++ yamlText depth calls
  | depth, _ :: calls => yamlText depth calls
where
  entry (depth : Nat) (name : String) : Exposition.Text := Pretty.newline depth ++ name.toList ++ [':']

def sampleSerializers : Serializers where
  formatDuration d := s!"{d / 1000000000}s"
  toYaml calls := .ok (String.ofList ((yamlText 0 calls).tail ++ ['\n']))
  toJsonPretty calls := .ok (String.ofList (Pretty.pretty [] false calls))

theorem sample_writesAll : WritesAll sampleSerializers := fun _ _ => ⟨_, rfl⟩

theorem sample_writesStrings : WritesStrings sampleSerializers := by
  intro config config' orders orders' text written written'
  apply Pretty.strings_of_pretty
  apply String.ofList_injective
  exact Except.ok.inj (written.trans written'.symm)

def tokenConfig (token password : String) : Config where
  exporters :=
    { otlp := some
        { enabled := true
          endpoint := some "http://localhost:4318"
          headers := (∅ : HashMap String String).insert "authorization" token }
      mqtt := some { auth := some { username := "exporter", password } } }
  collectors := []

def tokenEnvironment (token password : String) : Environment where
  files :=
    { readToString := fun _ => .ok ""
      parseConfig := fun _ => .ok (tokenConfig token password)
      parseMetricsFile := fun _ => .error ⟨"no metrics file", []⟩ }
  fileExists path := path = "config.yaml"
  home := "/root"

def anyRegex (_ : String) : Result (String → Bool) := .ok fun _ => true

theorem token_loaded (token password : String) :
    loadConfig (tokenEnvironment token password) (some "config.yaml") = .ok (tokenConfig token password) := rfl

theorem token_differ (token token' password password' : String) :
    Config.DifferInSecrets (tokenConfig token password) (tokenConfig token' password') := rfl

theorem shown_alike_password :
    PrintsAlike sampleSerializers anyRegex (tokenEnvironment "Bearer a" "first")
      (tokenEnvironment "Bearer a" "second") (some "config.yaml") (some "config.yaml") :=
  (shown_alike_iff sample_writesAll sample_writesStrings (token_loaded _ _) (token_loaded _ _)
    (token_differ _ _ _ _)).mpr rfl

theorem token_shown :
    loadConfig (tokenEnvironment "Bearer a" "first") (some "config.yaml") = .ok (tokenConfig "Bearer a" "first") ∧
      loadConfig (tokenEnvironment "Bearer b" "first") (some "config.yaml") =
        .ok (tokenConfig "Bearer b" "first") ∧
      Config.DifferInSecrets (tokenConfig "Bearer a" "first") (tokenConfig "Bearer b" "first") ∧
      ¬PrintsAlike sampleSerializers anyRegex (tokenEnvironment "Bearer a" "first")
        (tokenEnvironment "Bearer b" "first") (some "config.yaml") (some "config.yaml") := by
  refine ⟨token_loaded _ _, token_loaded _ _, token_differ _ _ _ _, fun alike => ?_⟩
  have shown : showLoaded sampleSerializers anyRegex {} (tokenConfig "Bearer a" "first") none none .json =
      showLoaded sampleSerializers anyRegex {} (tokenConfig "Bearer b" "first") none none .json :=
    alike {} none none .json
  have headers := headers_of_printed sample_writesAll sample_writesStrings (token_differ _ _ _ _) shown
  have values : some (some "Bearer a") = some (some "Bearer b") :=
    congrArg (fun shown => shown.map (AList.lookup "authorization")) headers
  exact absurd values (by decide)

end BusExporter
