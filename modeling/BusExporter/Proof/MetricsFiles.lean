import BusExporter.Model.Deserialize
import BusExporter.Proof.MergeOrder

/-! A metrics file stands for the metrics it lists, each written inline with the defaults it lacks. -/

namespace BusExporter
open Lib Serde Config

namespace Config

structure RawMetricConfig.Read (get : String → Option Document) (raw : RawMetricConfig) : Prop where
  name : field readStr (get "name") = some raw.name
  description : fieldOption readStr (get "description") = some raw.description
  metricType : fieldOption MetricType.deserialize (get "type") = some raw.metricType
  registerType : fieldOption RegisterType.deserialize (get "register_type") = some raw.registerType
  address : fieldOption deserializeU16 (get "address") = some raw.address
  dataType : fieldOption DataType.deserialize (get "data_type") = some raw.dataType
  byteOrder : fieldOption ByteOrder.deserialize (get "byte_order") = some raw.byteOrder
  scale : fieldOption readF64 (get "scale") = some raw.scale
  offset : fieldOption readF64 (get "offset") = some raw.offset
  unit : fieldOption readStr (get "unit") = some raw.unit
  command : fieldOr [] deserializeBytes (get "command") = some raw.command
  responseLength : fieldOption deserializeU16 (get "response_length") = some raw.responseLength
  responseOffset : fieldOr 0 deserializeU16 (get "response_offset") = some raw.responseOffset

structure MetricDefaultsConfig.Read (get : String → Option Document) (defaults : Option MetricDefaultsConfig) :
    Prop where
  description : fieldOption readStr (get "description") = some (defaults.bind (·.description))
  metricType : fieldOption MetricType.deserialize (get "type") = some (defaults.bind (·.metricType))
  registerType : fieldOption RegisterType.deserialize (get "register_type") = some (defaults.bind (·.registerType))
  dataType : fieldOption DataType.deserialize (get "data_type") = some (defaults.bind (·.dataType))
  byteOrder : fieldOption ByteOrder.deserialize (get "byte_order") = some (defaults.bind (·.byteOrder))
  scale : fieldOption readF64 (get "scale") = some (defaults.bind (·.scale))
  offset : fieldOption readF64 (get "offset") = some (defaults.bind (·.offset))
  unit : fieldOption readStr (get "unit") = some (defaults.bind (·.unit))
  own : ∀ name ∈ ["name", "address", "command", "response_length", "response_offset"], get name = none

def metricFields : List String :=
  ["name", "description", "type", "register_type", "address", "data_type", "byte_order", "scale", "offset", "unit",
    "command", "response_length", "response_offset"]

def defaultFields : List String :=
  ["description", "type", "register_type", "data_type", "byte_order", "scale", "offset", "unit"]

theorem RawMetricConfig.deserialize_some {v : Document} {raw : RawMetricConfig}
    (read : RawMetricConfig.deserialize v = some raw) :
    ∃ get, readStruct metricFields v = some get ∧ RawMetricConfig.Read get raw := by
  obtain ⟨get, opened, read⟩ := Option.bind_eq_some_iff.mp read
  obtain ⟨name, nameRead, read⟩ := Option.bind_eq_some_iff.mp read
  obtain ⟨description, descriptionRead, read⟩ := Option.bind_eq_some_iff.mp read
  obtain ⟨metricType, typeRead, read⟩ := Option.bind_eq_some_iff.mp read
  obtain ⟨registerType, registerRead, read⟩ := Option.bind_eq_some_iff.mp read
  obtain ⟨address, addressRead, read⟩ := Option.bind_eq_some_iff.mp read
  obtain ⟨dataType, dataRead, read⟩ := Option.bind_eq_some_iff.mp read
  obtain ⟨byteOrder, orderRead, read⟩ := Option.bind_eq_some_iff.mp read
  obtain ⟨scale, scaleRead, read⟩ := Option.bind_eq_some_iff.mp read
  obtain ⟨offset, offsetRead, read⟩ := Option.bind_eq_some_iff.mp read
  obtain ⟨unit, unitRead, read⟩ := Option.bind_eq_some_iff.mp read
  obtain ⟨command, commandRead, read⟩ := Option.bind_eq_some_iff.mp read
  obtain ⟨length, lengthRead, read⟩ := Option.bind_eq_some_iff.mp read
  obtain ⟨responseOffset, responseRead, read⟩ := Option.bind_eq_some_iff.mp read
  cases read
  exact ⟨get, opened, nameRead, descriptionRead, typeRead, registerRead, addressRead, dataRead, orderRead, scaleRead,
    offsetRead, unitRead, commandRead, lengthRead, responseRead⟩

theorem MetricDefaultsConfig.deserialize_some {v : Document} {defaults : MetricDefaultsConfig}
    (read : MetricDefaultsConfig.deserialize v = some defaults) :
    ∃ get, readStruct defaultFields v = some get ∧ MetricDefaultsConfig.Read get (some defaults) := by
  obtain ⟨get, opened, read⟩ := Option.bind_eq_some_iff.mp read
  obtain ⟨description, descriptionRead, read⟩ := Option.bind_eq_some_iff.mp read
  obtain ⟨metricType, typeRead, read⟩ := Option.bind_eq_some_iff.mp read
  obtain ⟨registerType, registerRead, read⟩ := Option.bind_eq_some_iff.mp read
  obtain ⟨dataType, dataRead, read⟩ := Option.bind_eq_some_iff.mp read
  obtain ⟨byteOrder, orderRead, read⟩ := Option.bind_eq_some_iff.mp read
  obtain ⟨scale, scaleRead, read⟩ := Option.bind_eq_some_iff.mp read
  obtain ⟨offset, offsetRead, read⟩ := Option.bind_eq_some_iff.mp read
  obtain ⟨unit, unitRead, read⟩ := Option.bind_eq_some_iff.mp read
  cases read
  refine ⟨get, opened, descriptionRead, typeRead, registerRead, dataRead, orderRead, scaleRead, offsetRead,
    unitRead, ?_⟩
  intro name own
  obtain ⟨entries, _, known, _, rfl⟩ := readStruct_eq_some.mp opened
  apply List.lookup_eq_none_iff.mpr
  intro e member
  have listed := known e member
  rw [bne_iff_ne]
  intro same
  rw [← same] at listed
  revert listed own
  simp only [List.mem_cons, List.not_mem_nil, or_false]
  rintro (rfl | rfl | rfl | rfl | rfl) <;> decide

theorem MetricDefaultsConfig.read_none : MetricDefaultsConfig.Read (fun _ => none) none where
  description := rfl
  metricType := rfl
  registerType := rfl
  dataType := rfl
  byteOrder := rfl
  scale := rfl
  offset := rfl
  unit := rfl
  own _ _ := rfl

section Fields
variable {α : Type} {read : Document → Option α} {own default : Option Document} {a b : Option α}

theorem fieldOption_or (first : fieldOption read own = some a) (second : fieldOption read default = some b) :
    fieldOption read (own.or default) = some (a.or b) := by
  cases own with
  | none =>
      cases first
      exact second
  | some v =>
      rw [Option.some_or, first]
      rw [fieldOption, fieldOr, Option.map_eq_some_iff] at first
      obtain ⟨x, _, rfl⟩ := first
      rfl

theorem field_or (first : fieldOption read own = some a) (second : fieldOption read default = some b) :
    field read (own.or default) = a.or b := by
  have both := fieldOption_or first second
  cases present : own.or default with
  | none =>
      rw [present] at both
      exact Option.some.inj both
  | some v =>
      rw [present, fieldOption, fieldOr, Option.map_eq_some_iff] at both
      obtain ⟨x, done, same⟩ := both
      rw [field, Option.bind_some, done, same]

theorem fieldOr_or (x : α) (first : fieldOption read own = some a) (second : fieldOption read default = some b) :
    fieldOr x read (own.or default) = some ((a.or b).getD x) := by
  have both := fieldOption_or first second
  cases present : own.or default with
  | none =>
      rw [present] at both
      rw [← Option.some.inj both]
      rfl
  | some v =>
      rw [present, fieldOption, fieldOr, Option.map_eq_some_iff] at both
      obtain ⟨y, done, same⟩ := both
      rw [fieldOr, done, ← same]
      rfl

end Fields

theorem MetricConfig.deserialize_or {v : Document} {own default : String → Option Document} {raw : RawMetricConfig}
    {defaults : Option MetricDefaultsConfig} (opened : readStruct metricFields v = some fun n => (own n).or (default n))
    (raws : RawMetricConfig.Read own raw) (filled : MetricDefaultsConfig.Read default defaults)
    (collectorName filePath : String) :
    MetricConfig.deserialize v = (raw.intoMetric defaults collectorName filePath).toOption := by
  have alone (name : String) (listed : name ∈ ["name", "address", "command", "response_length", "response_offset"]) :
      (own name).or (default name) = own name := by
    rw [filled.own name listed, Option.or_none]
  have name : field readStr ((own "name").or (default "name")) = some raw.name := by
    rw [alone "name" (by decide)]
    exact raws.name
  have address : fieldOption deserializeU16 ((own "address").or (default "address")) = some raw.address := by
    rw [alone "address" (by decide)]
    exact raws.address
  have command : fieldOr [] deserializeBytes ((own "command").or (default "command")) = some raw.command := by
    rw [alone "command" (by decide)]
    exact raws.command
  have length : fieldOption deserializeU16 ((own "response_length").or (default "response_length")) =
      some raw.responseLength := by
    rw [alone "response_length" (by decide)]
    exact raws.responseLength
  have offset : fieldOr 0 deserializeU16 ((own "response_offset").or (default "response_offset")) =
      some raw.responseOffset := by
    rw [alone "response_offset" (by decide)]
    exact raws.responseOffset
  have description := fieldOr_or "" raws.description filled.description
  have metricType := field_or raws.metricType filled.metricType
  have registerType := fieldOption_or raws.registerType filled.registerType
  have dataType := field_or raws.dataType filled.dataType
  have byteOrder := fieldOr_or .bigEndian raws.byteOrder filled.byteOrder
  rw [RawMetricConfig.intoMetric]
  cases kind : raw.metricType.or (defaults.bind (·.metricType)) with
  | none =>
      rw [kind] at metricType
      exact reading opened (reading name (reading description (refusing metricType)))
  | some kind' =>
      rw [kind] at metricType
      cases data : raw.dataType.or (defaults.bind (·.dataType)) with
      | none =>
          rw [data] at dataType
          exact reading opened (reading name (reading description (reading metricType (reading registerType
            (reading address (refusing dataType))))))
      | some data' =>
          rw [data] at dataType
          exact reading opened (reading name (reading description (reading metricType (reading registerType
            (reading address (reading dataType (reading byteOrder
              (reading (fieldOr_or 1.0 raws.scale filled.scale) (reading (fieldOr_or 0.0 raws.offset filled.offset)
                (reading (fieldOr_or "" raws.unit filled.unit) (reading command (reading length
                  (reading offset rfl)))))))))))))

theorem MetricDefaultsConfig.read_entries {entries : Option (List (String × Document))}
    {defaults : Option MetricDefaultsConfig}
    (read : fieldOption MetricDefaultsConfig.deserialize (entries.map .map) = some defaults) :
    (∀ e ∈ entries.getD [], e.1 ∈ defaultFields) ∧ ((entries.getD []).map (·.1)).Nodup ∧
      MetricDefaultsConfig.Read (fun name => (entries.getD []).lookup name) defaults := by
  cases entries with
  | none =>
      cases read
      exact ⟨fun e member => absurd member List.not_mem_nil, List.nodup_nil, MetricDefaultsConfig.read_none⟩
  | some entries =>
      obtain ⟨some, done, rfl⟩ := Option.map_eq_some_iff.mp read
      obtain ⟨get, opened, filled⟩ := MetricDefaultsConfig.deserialize_some done
      obtain ⟨_, same, known, distinct, rfl⟩ := readStruct_eq_some.mp opened
      cases same
      exact ⟨known, distinct, filled⟩

theorem deserialize_fill {entries : List (String × Document)} {defaultEntries : Option (List (String × Document))}
    {raw : RawMetricConfig} {defaults : Option MetricDefaultsConfig}
    (read : RawMetricConfig.deserialize (.map entries) = some raw)
    (readDefaults : fieldOption MetricDefaultsConfig.deserialize (defaultEntries.map .map) = some defaults)
    (collectorName filePath : String) :
    MetricConfig.deserialize (.map (Document.fill entries (defaultEntries.getD []))) =
      (raw.intoMetric defaults collectorName filePath).toOption := by
  obtain ⟨own, opened, raws⟩ := RawMetricConfig.deserialize_some read
  obtain ⟨_, same, known, distinct, rfl⟩ := readStruct_eq_some.mp opened
  cases same
  obtain ⟨knownDefaults, distinctDefaults, filled⟩ := MetricDefaultsConfig.read_entries readDefaults
  have listed : defaultFields ⊆ metricFields := by decide
  have accepted : readStruct metricFields (.map (Document.fill entries (defaultEntries.getD []))) =
      some fun name => (entries.lookup name).or ((defaultEntries.getD []).lookup name) := by
    refine readStruct_eq_some.mpr ⟨_, rfl, ?_, Document.fill_nodup distinct distinctDefaults, ?_⟩
    · intro e member
      rcases List.mem_append.mp member with old | new
      · exact known e old
      · exact listed (knownDefaults e (List.mem_filter.mp new).1)
    · funext name
      exact (Document.lookup_fill entries (defaultEntries.getD []) name).symm
  exact MetricConfig.deserialize_or accepted raws filled collectorName filePath

structure MetricsDocument where
  defaults : Option (List (String × Document)) := none
  metrics : List (List (String × Document))

namespace MetricsDocument

def document (m : MetricsDocument) : Document :=
  .map (Document.present [("defaults", m.defaults.map .map), ("metrics", some (.seq (m.metrics.map .map)))])

def inlined (m : MetricsDocument) : List Document :=
  m.metrics.map fun entries => .map (Document.fill entries (m.defaults.getD []))

end MetricsDocument

theorem MetricsFileConfig.deserialize_some {m : MetricsDocument} {source : MetricsFileConfig}
    (read : MetricsFileConfig.deserialize m.document = some source) :
    fieldOption MetricDefaultsConfig.deserialize (m.defaults.map .map) = some source.defaults ∧
      (m.metrics.map Document.map).mapM RawMetricConfig.deserialize = some source.metrics := by
  obtain ⟨get, opened, read⟩ := Option.bind_eq_some_iff.mp read
  obtain ⟨defaults, defaultsRead, read⟩ := Option.bind_eq_some_iff.mp read
  obtain ⟨metrics, metricsRead, read⟩ := Option.bind_eq_some_iff.mp read
  cases read
  have whole : readStruct ["defaults", "metrics"] m.document = some _ := readStruct_present rfl (by decide)
  cases whole.symm.trans opened
  exact ⟨defaultsRead, metricsRead⟩

theorem mergeRaw_inlined {items : List (List (String × Document))}
    {defaultEntries : Option (List (String × Document))} {raws : List RawMetricConfig}
    {defaults : Option MetricDefaultsConfig}
    (read : (items.map Document.map).mapM RawMetricConfig.deserialize = some raws)
    (readDefaults : fieldOption MetricDefaultsConfig.deserialize (defaultEntries.map .map) = some defaults)
    (collectorName filePath : String) (merged : List MetricConfig) :
    (mergeRaw defaults collectorName filePath raws merged).toOption =
      ((items.map fun entries => Document.map (Document.fill entries (defaultEntries.getD []))).mapM
        MetricConfig.deserialize).map fun metrics => metrics.foldl insertMetric merged := by
  induction items generalizing raws merged with
  | nil =>
      cases read
      rfl
  | cons entries items ih =>
      rw [List.map_cons, List.mapM_cons] at read
      obtain ⟨raw, rawRead, read⟩ := Option.bind_eq_some_iff.mp read
      obtain ⟨later, laterRead, read⟩ := Option.bind_eq_some_iff.mp read
      cases read
      have first := deserialize_fill rawRead readDefaults collectorName filePath
      rw [List.map_cons, List.mapM_cons, first, mergeRaw]
      cases raw.intoMetric defaults collectorName filePath with
      | error e => rfl
      | ok metric =>
          have rest := ih laterRead (insertMetric merged metric)
          change (mergeRaw defaults collectorName filePath later (insertMetric merged metric)).toOption = _
          rw [rest]
          simp only [Except.toOption, Option.bind_eq_bind, Option.bind_some, Option.map_bind]
          cases (items.map fun entries => Document.map (Document.fill entries (defaultEntries.getD []))).mapM
            MetricConfig.deserialize <;> rfl

section Files
variable {files : Files} {configDir : String} {documents : String → MetricsDocument}

def Holds (files : Files) (configDir : String) (documents : String → MetricsDocument) (file : String) : Prop :=
  (documents file).metrics ≠ [] ∧ ∃ source, Loads files configDir file source ∧
    MetricsFileConfig.deserialize (documents file).document = some source

theorem mergeFile_inlined {file : String} (holds : Holds files configDir documents file) (collectorName : String)
    (merged : List MetricConfig) :
    (mergeFile files collectorName configDir file merged).toOption =
      ((documents file).inlined.mapM MetricConfig.deserialize).map fun metrics =>
        metrics.foldl insertMetric merged := by
  obtain ⟨filled, source, loads, read⟩ := holds
  obtain ⟨content, opened, parsed⟩ := loads.found
  obtain ⟨defaultsRead, metricsRead⟩ := MetricsFileConfig.deserialize_some read
  have nonempty : ¬source.metrics.isEmpty := by
    intro empty
    rw [List.isEmpty_iff.mp empty] at metricsRead
    cases items : (documents file).metrics with
    | nil => exact filled items
    | cons entries later =>
        rw [items, List.map_cons, List.mapM_cons] at metricsRead
        obtain ⟨raw, _, rest⟩ := Option.bind_eq_some_iff.mp metricsRead
        obtain ⟨raws, _, rest⟩ := Option.bind_eq_some_iff.mp rest
        cases rest
  have merging := mergeRaw_inlined metricsRead defaultsRead collectorName (metricsPath configDir file) merged
  rw [MetricsDocument.inlined, ← merging]
  unfold mergeFile
  rw [← metricsPath]
  simp only [opened, parsed, Except.mapError, bind, Except.bind, if_neg nonempty]

theorem mergeFiles_inlined {names : List String} (holds : ∀ file ∈ names, Holds files configDir documents file)
    (collectorName : String) (merged : List MetricConfig) :
    (mergeFiles files collectorName configDir names merged).toOption =
      ((names.flatMap fun file => (documents file).inlined).mapM MetricConfig.deserialize).map fun metrics =>
        metrics.foldl insertMetric merged := by
  induction names generalizing merged with
  | nil => rfl
  | cons file names ih =>
      have first := mergeFile_inlined (holds file List.mem_cons_self) collectorName merged
      rw [List.flatMap_cons, List.mapM_append, mergeFiles]
      cases merging : mergeFile files collectorName configDir file merged with
      | error e =>
          rw [merging] at first
          have refused := Option.map_eq_none_iff.mp first.symm
          rw [refused]
          rfl
      | ok next =>
          rw [merging] at first
          obtain ⟨metrics, read, same⟩ := Option.map_eq_some_iff.mp first.symm
          have rest := ih (fun other member => holds other (List.mem_cons_of_mem _ member)) next
          change (mergeFiles files collectorName configDir names next).toOption = _
          rw [rest, read, ← same]
          simp only [Option.bind_eq_bind, Option.bind_some, Option.map_bind]
          cases (names.flatMap fun file => (documents file).inlined).mapM MetricConfig.deserialize with
          | none => rfl
          | some later => exact congrArg some (List.foldl_append ..).symm

/-- A collector that names metrics files resolves to the metrics of one without, in which the metrics of its
files, completed with the defaults of their files, stand before its own. -/
theorem resolve_inlined {c : CollectorConfig}
    (holds : ∀ file ∈ c.metricsFiles.getD [], Holds files configDir documents file) :
    (c.resolveMetricsFiles files configDir).toOption.map (·.metrics) =
      (((c.metricsFiles.getD []).flatMap fun file => (documents file).inlined).mapM MetricConfig.deserialize).bind
        fun inlined =>
          (CollectorConfig.resolveMetricsFiles files configDir
            { c with metricsFiles := none, metrics := inlined ++ c.metrics }).toOption.map (·.metrics) := by
  have merging := mergeFiles_inlined holds c.name []
  rw [CollectorConfig.resolveMetricsFiles]
  cases merged : mergeFiles files c.name configDir (c.metricsFiles.getD []) [] with
  | error e =>
      rw [merged] at merging
      rw [Option.map_eq_none_iff.mp merging.symm]
      rfl
  | ok metrics =>
      rw [merged] at merging
      obtain ⟨inlined, read, same⟩ := Option.map_eq_some_iff.mp merging.symm
      rw [read, ← same]
      exact congrArg some (List.foldl_append ..).symm

end Files

def pumpDocument : MetricsDocument where
  defaults := some [("type", .str "gauge"), ("data_type", .str "u16")]
  metrics :=
    [[("name", .str "pressure"), ("address", .unsigned 100), ("scale", .float 0.1)],
      [("name", .str "flow"), ("data_type", .str "i16"), ("address", .unsigned 101)]]

def pumpSource : MetricsFileConfig where
  defaults := some { metricType := some .gauge, dataType := some .u16 }
  metrics :=
    [{ name := "pressure", address := some 100, scale := some 0.1 },
      { name := "flow", dataType := some .i16, address := some 101 }]

def pumpText : String :=
  "defaults:
  type: gauge
  data_type: u16
metrics:
  - name: pressure
    address: 100
    scale: 0.1
  - name: flow
    data_type: i16
    address: 101
"

def pumpFiles : Files where
  readToString path :=
    if path = "/etc/bus-exporter/pump.yaml" then .ok pumpText else .error ⟨"no such file", []⟩
  parseConfig _ := .error ⟨"no configuration", []⟩
  parseMetricsFile _ := .ok pumpSource

def pumpCollector : CollectorConfig where
  name := "pump"
  protocol := .modbusTcp "127.0.0.1:502"
  metricsFiles := some ["pump.yaml"]
  metrics := [{ name := "power", metricType := .gauge, dataType := .f32 }]

theorem pump_holds : Holds pumpFiles "/etc/bus-exporter" (fun _ => pumpDocument) "pump.yaml" := by
  have path : metricsPath "/etc/bus-exporter" "pump.yaml" = "/etc/bus-exporter/pump.yaml" := by decide
  refine ⟨by simp [pumpDocument], pumpSource, ⟨⟨pumpText, ?_, rfl⟩⟩, rfl⟩
  rw [path]
  simp only [pumpFiles, if_true]

theorem pump_inlined :
    (pumpCollector.resolveMetricsFiles pumpFiles "/etc/bus-exporter").toOption.map (·.metrics) =
      ((["pump.yaml"].flatMap fun _ => pumpDocument.inlined).mapM MetricConfig.deserialize).bind fun inlined =>
        (CollectorConfig.resolveMetricsFiles pumpFiles "/etc/bus-exporter"
          { pumpCollector with metricsFiles := none, metrics := inlined ++ pumpCollector.metrics }).toOption.map
            (·.metrics) := by
  apply resolve_inlined
  intro file member
  rw [List.mem_singleton.mp member]
  exact pump_holds

end Config
end BusExporter
