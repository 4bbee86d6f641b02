import BusExporter.Proof.Resolved
import Mathlib.Data.List.Forall2

/-! Metrics files merged into a collector: the last entry of each name, in the order of the first ones. -/

namespace BusExporter.Config
open Lib

/-- What a list of entries is merged to: one metric for each name, where the name first came, and the
last one that had it. -/
structure Merged (entries result : List MetricConfig) : Prop where
  distinct : DistinctNames result
  names : ∀ name, name ∈ result.map (·.name) ↔ name ∈ entries.map (·.name)
  order : (result.map (·.name)).Pairwise fun a b =>
    (entries.map (·.name)).idxOf a < (entries.map (·.name)).idxOf b
  last : ∀ m ∈ result, ∃ before after, entries = before ++ m :: after ∧
    ∀ later ∈ after, later.name ≠ m.name

theorem merged_nil : Merged [] [] where
  distinct := List.nodup_nil
  names := by simp
  order := .nil
  last := by simp

theorem mem_insertMetric {merged : List MetricConfig} {metric m : MetricConfig}
    (member : m ∈ insertMetric merged metric) : m = metric ∨ (m ∈ merged ∧ m.name ≠ metric.name) := by
  unfold insertMetric at member
  split_ifs at member with present
  · obtain ⟨old, inMerged, rfl⟩ := List.mem_map.mp member
    by_cases same : old.name = metric.name
    · simp [same]
    · exact .inr ⟨by simpa [same] using inMerged, by simp [same]⟩
  · rcases List.mem_append.mp member with old | new
    · refine .inr ⟨old, fun same => present ?_⟩
      simp only [List.any_eq_true, decide_eq_true_eq]
      exact ⟨m, old, same⟩
    · exact .inl (List.mem_singleton.mp new)

theorem Merged.insert {entries result : List MetricConfig} (merged : Merged entries result)
    (metric : MetricConfig) : Merged (entries ++ [metric]) (insertMetric result metric) := by
  have known : result.any (·.name = metric.name) = true ↔ metric.name ∈ entries.map (·.name) := by
    rw [← merged.names]
    simp
  have names := insertMetric_names result metric
  constructor
  · exact insertMetric_distinct merged.distinct metric
  · intro name
    rw [names, List.map_append, List.mem_append, ← merged.names]
    split_ifs with present
    · have old := (merged.names _).mpr (known.mp present)
      constructor
      · exact .inl
      · rintro (member | new)
        · exact member
        · rwa [List.map_singleton, List.mem_singleton.mp new] at *
    · rw [List.mem_append]
      rfl
  · rw [names, List.map_append, List.map_singleton]
    have kept : (result.map (·.name)).Pairwise fun a b =>
        (entries.map (·.name) ++ [metric.name]).idxOf a <
          (entries.map (·.name) ++ [metric.name]).idxOf b := by
      apply merged.order.imp_of_mem
      intro a b first second order
      rwa [List.idxOf_append_of_mem ((merged.names a).mp first),
        List.idxOf_append_of_mem ((merged.names b).mp second)]
    split_ifs with present
    · exact kept
    · have fresh : metric.name ∉ entries.map (·.name) := fun old => present (known.mpr old)
      refine List.pairwise_append.mpr ⟨kept, List.pairwise_singleton _ _, ?_⟩
      intro a first b new
      rw [List.mem_singleton.mp new, List.idxOf_append_of_mem ((merged.names a).mp first),
        List.idxOf_append_of_notMem fresh]
      have inside := List.idxOf_lt_length_of_mem ((merged.names a).mp first)
      omega
  · intro m member
    rcases mem_insertMetric member with rfl | ⟨old, different⟩
    · exact ⟨entries, [], rfl, by simp⟩
    · obtain ⟨before, after, split, others⟩ := merged.last m old
      refine ⟨before, after ++ [metric], by simp [split], ?_⟩
      intro later inAfter
      rcases List.mem_append.mp inAfter with already | new
      · exact others later already
      · rw [List.mem_singleton.mp new]
        exact different.symm

theorem Merged.foldl {entries result : List MetricConfig} (merged : Merged entries result)
    (metrics : List MetricConfig) :
    Merged (entries ++ metrics) (metrics.foldl insertMetric result) := by
  induction metrics generalizing entries result with
  | nil => rwa [List.append_nil]
  | cons metric metrics ih =>
      have rest := ih (merged.insert metric)
      rwa [List.append_assoc] at rest

/-- How a metric of a file is completed: its own field, else the default of its file, else that of the
schema; the address, the command and the response are its own. -/
structure Converts (defaults : Option MetricDefaultsConfig) (raw : RawMetricConfig) (metric : MetricConfig) :
    Prop where
  name : metric.name = raw.name
  description : metric.description = (raw.description.or (defaults.bind (·.description))).getD ""
  metricType : raw.metricType.or (defaults.bind (·.metricType)) = some metric.metricType
  registerType : metric.registerType = raw.registerType.or (defaults.bind (·.registerType))
  address : metric.address = raw.address
  dataType : raw.dataType.or (defaults.bind (·.dataType)) = some metric.dataType
  byteOrder : metric.byteOrder = (raw.byteOrder.or (defaults.bind (·.byteOrder))).getD .bigEndian
  scale : metric.scale = (raw.scale.or (defaults.bind (·.scale))).getD 1.0
  offset : metric.offset = (raw.offset.or (defaults.bind (·.offset))).getD 0.0
  unit : metric.unit = (raw.unit.or (defaults.bind (·.unit))).getD ""
  command : metric.command = raw.command
  responseLength : metric.responseLength = raw.responseLength
  responseOffset : metric.responseOffset = raw.responseOffset

def Lacking (defaults : Option MetricDefaultsConfig) (raw : RawMetricConfig) : Prop :=
  raw.metricType.or (defaults.bind (·.metricType)) = none ∨
    raw.dataType.or (defaults.bind (·.dataType)) = none

section Conversion
variable (defaults : Option MetricDefaultsConfig) (collectorName filePath : String)

theorem intoMetric_cases (raw : RawMetricConfig) :
    (Lacking defaults raw ∧ ∃ e, raw.intoMetric defaults collectorName filePath = .error e) ∨
      ∃ metric, Converts defaults raw metric ∧ raw.intoMetric defaults collectorName filePath = .ok metric := by
  unfold RawMetricConfig.intoMetric
  cases metricType : raw.metricType.or (defaults.bind (·.metricType)) with
  | none => exact .inl ⟨.inl metricType, _, rfl⟩
  | some kind =>
      cases dataType : raw.dataType.or (defaults.bind (·.dataType)) with
      | none => exact .inl ⟨.inr dataType, _, rfl⟩
      | some data =>
          refine .inr ⟨_, ?_, rfl⟩
          constructor <;> first | rfl | assumption

theorem mergeRaw_cases (raws : List RawMetricConfig) (merged : List MetricConfig) :
    ((∃ raw ∈ raws, Lacking defaults raw) ∧
        ∃ e, mergeRaw defaults collectorName filePath raws merged = .error e) ∨
      ∃ metrics, List.Forall₂ (Converts defaults) raws metrics ∧
        mergeRaw defaults collectorName filePath raws merged = .ok (metrics.foldl insertMetric merged) := by
  induction raws generalizing merged with
  | nil => exact .inr ⟨[], .nil, rfl⟩
  | cons raw raws ih =>
      rw [mergeRaw]
      rcases intoMetric_cases defaults collectorName filePath raw with
        ⟨lacking, e, failed⟩ | ⟨metric, converts, converted⟩
      · exact .inl ⟨⟨raw, by simp, lacking⟩, e, by rw [failed]; rfl⟩
      · rcases ih (insertMetric merged metric) with ⟨⟨other, member, lacking⟩, e, failed⟩ | ⟨rest, later, done⟩
        · exact .inl ⟨⟨other, by simp [member], lacking⟩, e, by rw [converted]; exact failed⟩
        · exact .inr ⟨metric :: rest, .cons converts later, by rw [converted]; exact done⟩

end Conversion

variable (files : Files) (configDir : String)

def metricsPath (file : String) : String :=
  if Path.isAbsolute file then file else Path.join configDir file

structure Loads (file : String) (source : MetricsFileConfig) : Prop where
  found : ∃ content, files.readToString (metricsPath configDir file) = .ok content ∧
    files.parseMetricsFile content = .ok source

inductive Broken (file : String) : Prop
  | unreadable {e : Error} : files.readToString (metricsPath configDir file) = .error e → Broken file
  | unparsable {content : String} {e : Error} :
      files.readToString (metricsPath configDir file) = .ok content →
        files.parseMetricsFile content = .error e → Broken file
  | empty {source : MetricsFileConfig} : Loads files configDir file source → source.metrics = [] →
      Broken file
  | incomplete {source : MetricsFileConfig} {raw : RawMetricConfig} :
      Loads files configDir file source → raw ∈ source.metrics → Lacking source.defaults raw → Broken file

def Supplies (file : String) (metrics : List MetricConfig) : Prop :=
  ∃ source, Loads files configDir file source ∧ source.metrics ≠ [] ∧
    List.Forall₂ (Converts source.defaults) source.metrics metrics

variable {files configDir}

theorem Loads.unique {file : String} {source source' : MetricsFileConfig}
    (first : Loads files configDir file source) (second : Loads files configDir file source') :
    source = source' := by
  obtain ⟨content, read, parsed⟩ := first.found
  obtain ⟨content', read', parsed'⟩ := second.found
  obtain rfl := Except.ok.inj (read.symm.trans read')
  exact Except.ok.inj (parsed.symm.trans parsed')

theorem forall₂_left {α β : Type} {related : α → β → Prop} {l : List α} {l' : List β}
    (pairs : List.Forall₂ related l l') {a : α} (member : a ∈ l) : ∃ b, related a b := by
  induction pairs with
  | nil => simp at member
  | cons first _ ih =>
      rcases List.mem_cons.mp member with rfl | later
      · exact ⟨_, first⟩
      · exact ih later

theorem Supplies.not_broken {file : String} {metrics : List MetricConfig}
    (supplies : Supplies files configDir file metrics) : ¬Broken files configDir file := by
  obtain ⟨source, loads, nonempty, converted⟩ := supplies
  obtain ⟨content, read, parsed⟩ := loads.found
  intro broken
  cases broken with
  | unreadable failed => simp [failed] at read
  | unparsable read' failed =>
      obtain rfl := Except.ok.inj (read.symm.trans read')
      simp [failed] at parsed
  | empty loads' none =>
      rw [loads'.unique loads] at none
      exact nonempty none
  | incomplete loads' member lacking =>
      rw [loads'.unique loads] at member lacking
      obtain ⟨metric, converts⟩ := forall₂_left converted member
      rcases lacking with noType | noData
      · cases noType.symm.trans converts.metricType
      · cases noData.symm.trans converts.dataType

variable (files configDir)

theorem mergeFile_cases (collectorName file : String) (merged : List MetricConfig) :
    (Broken files configDir file ∧ ∃ e, mergeFile files collectorName configDir file merged = .error e) ∨
      ∃ metrics, Supplies files configDir file metrics ∧
        mergeFile files collectorName configDir file merged = .ok (metrics.foldl insertMetric merged) := by
  unfold mergeFile
  rw [← metricsPath]
  cases read : files.readToString (metricsPath configDir file) with
  | error e =>
      simp only [read, Except.mapError, bind, Except.bind]
      exact .inl ⟨.unreadable read, _, rfl⟩
  | ok content =>
      cases parsed : files.parseMetricsFile content with
      | error e =>
          simp only [read, parsed, Except.mapError, bind, Except.bind]
          exact .inl ⟨.unparsable read parsed, _, rfl⟩
      | ok source =>
          have loads : Loads files configDir file source := ⟨content, read, parsed⟩
          simp only [read, parsed, Except.mapError, bind, Except.bind]
          split_ifs with empty
          · exact .inl ⟨.empty loads (List.isEmpty_iff.mp empty), _, rfl⟩
          · rcases mergeRaw_cases source.defaults collectorName (metricsPath configDir file) source.metrics
              merged with ⟨⟨raw, member, lacking⟩, failed⟩ | ⟨metrics, converted, done⟩
            · exact .inl ⟨.incomplete loads member lacking, failed⟩
            · exact .inr ⟨metrics, ⟨source, loads, fun none => empty (by simp [none]), converted⟩, done⟩

theorem mergeFiles_cases (collectorName : String) (names : List String) (merged : List MetricConfig) :
    ((∃ file ∈ names, Broken files configDir file) ∧
        ∃ e, mergeFiles files collectorName configDir names merged = .error e) ∨
      ∃ supplied, List.Forall₂ (Supplies files configDir) names supplied ∧
        mergeFiles files collectorName configDir names merged =
          .ok (supplied.flatten.foldl insertMetric merged) := by
  induction names generalizing merged with
  | nil => exact .inr ⟨[], .nil, rfl⟩
  | cons file names ih =>
      rw [mergeFiles]
      rcases mergeFile_cases files configDir collectorName file merged with
        ⟨broken, e, failed⟩ | ⟨metrics, supplies, done⟩
      · exact .inl ⟨⟨file, by simp, broken⟩, e, by rw [failed]; rfl⟩
      · rcases ih (metrics.foldl insertMetric merged) with
          ⟨⟨other, member, broken⟩, e, failed⟩ | ⟨supplied, others, rest⟩
        · exact .inl ⟨⟨other, by simp [member], broken⟩, e, by rw [done]; exact failed⟩
        · refine .inr ⟨metrics :: supplied, .cons supplies others, ?_⟩
          rw [done, List.flatten_cons, List.foldl_append]
          exact rest

/-- Resolving fails exactly where a file is broken, and then leaves the collector as it was; else it
merges what the files supply, in order, with the inline metrics after them. -/
theorem resolve_law (c : CollectorConfig) :
    let names := c.metricsFiles.getD []
    let (result, resolved) := c.resolveMetricsFilesMut files configDir
    ((∃ e, result = .error e) ↔ ∃ file ∈ names, Broken files configDir file) ∧
      (∀ e, result = .error e → resolved = c) ∧
      (result = .ok () → ∃ supplied, List.Forall₂ (Supplies files configDir) names supplied ∧
        Merged (supplied.flatten ++ c.metrics) resolved.metrics ∧
        resolved = { c with metrics := resolved.metrics }) := by
  simp only [CollectorConfig.resolveMetricsFilesMut]
  rcases mergeFiles_cases files configDir c.name (c.metricsFiles.getD []) [] with
    ⟨broken, e, failed⟩ | ⟨supplied, supplies, done⟩
  · rw [failed]
    refine ⟨⟨fun _ => broken, fun _ => ⟨e, rfl⟩⟩, fun _ _ => rfl, ?_⟩
    intro ok
    cases ok
  · rw [done]
    refine ⟨⟨?_, ?_⟩, ?_, ?_⟩
    · rintro ⟨e, failed⟩
      cases failed
    · rintro ⟨file, member, broken⟩
      obtain ⟨metrics, supply⟩ := forall₂_left supplies member
      exact absurd broken supply.not_broken
    · intro e failed
      cases failed
    · intro _
      have merged := merged_nil.foldl (supplied.flatten ++ c.metrics)
      rw [List.nil_append, List.foldl_append] at merged
      exact ⟨supplied, supplies, merged, rfl⟩

theorem resolveMetricsFiles_mut (c : CollectorConfig) :
    (c.resolveMetricsFilesMut files configDir).1.map (fun _ =>
      (c.resolveMetricsFilesMut files configDir).2) = c.resolveMetricsFiles files configDir := by
  unfold CollectorConfig.resolveMetricsFilesMut CollectorConfig.resolveMetricsFiles
  cases mergeFiles files c.name configDir (c.metricsFiles.getD []) [] <;> rfl

end BusExporter.Config
