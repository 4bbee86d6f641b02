import BusExporter.Model.Load

/-! The metrics of a loaded collector have distinct names. -/

namespace BusExporter.Config
open Lib

def DistinctNames (metrics : List MetricConfig) : Prop := (metrics.map (·.name)).Nodup

theorem insertMetric_names (merged : List MetricConfig) (metric : MetricConfig) :
    (insertMetric merged metric).map (·.name) =
      if merged.any (·.name = metric.name) then merged.map (·.name)
      else merged.map (·.name) ++ [metric.name] := by
  unfold insertMetric
  split_ifs with present
  · rw [List.map_map]
    apply List.map_congr_left
    intro m _
    by_cases same : m.name = metric.name <;> simp [same]
  · simp

theorem insertMetric_distinct {merged : List MetricConfig} (distinct : DistinctNames merged)
    (metric : MetricConfig) : DistinctNames (insertMetric merged metric) := by
  rw [DistinctNames, insertMetric_names]
  split_ifs with present
  · exact distinct
  · refine List.nodup_append.mpr ⟨distinct, by simp, ?_⟩
    rintro name member _ last rfl
    obtain ⟨m, old, rfl⟩ := List.mem_map.mp member
    apply present
    simp only [List.any_eq_true, decide_eq_true_eq]
    exact ⟨m, old, List.mem_singleton.mp last⟩

theorem foldl_insertMetric_distinct (metrics : List MetricConfig) {merged : List MetricConfig}
    (distinct : DistinctNames merged) : DistinctNames (metrics.foldl insertMetric merged) := by
  induction metrics generalizing merged with
  | nil => exact distinct
  | cons metric metrics ih => exact ih (insertMetric_distinct distinct metric)

theorem mergeRaw_distinct {defaults : Option MetricDefaultsConfig} {collectorName filePath : String}
    {raws : List RawMetricConfig} {merged result : List MetricConfig}
    (done : mergeRaw defaults collectorName filePath raws merged = .ok result)
    (distinct : DistinctNames merged) : DistinctNames result := by
  induction raws generalizing merged with
  | nil =>
      cases done
      exact distinct
  | cons raw raws ih =>
      obtain ⟨metric, _, rest⟩ := except_bind_ok done
      exact ih rest (insertMetric_distinct distinct metric)

variable {files : Files}

theorem mergeFile_distinct {collectorName configDir file : String} {merged result : List MetricConfig}
    (done : mergeFile files collectorName configDir file merged = .ok result)
    (distinct : DistinctNames merged) : DistinctNames result := by
  obtain ⟨content, _, parsing⟩ := except_bind_ok done
  obtain ⟨metricsFile, _, rest⟩ := except_bind_ok parsing
  by_cases empty : metricsFile.metrics.isEmpty
  · rw [if_pos empty] at rest
    cases rest
  · rw [if_neg empty] at rest
    exact mergeRaw_distinct rest distinct

theorem mergeFiles_distinct {collectorName configDir : String} {names : List String}
    {merged result : List MetricConfig}
    (done : mergeFiles files collectorName configDir names merged = .ok result)
    (distinct : DistinctNames merged) : DistinctNames result := by
  induction names generalizing merged with
  | nil =>
      cases done
      exact distinct
  | cons file names ih =>
      obtain ⟨next, first, rest⟩ := except_bind_ok done
      exact ih rest (mergeFile_distinct first distinct)

theorem resolveMetricsFiles_distinct {configDir : String} {c resolved : CollectorConfig}
    (done : c.resolveMetricsFiles files configDir = .ok resolved) : DistinctNames resolved.metrics := by
  obtain ⟨merged, first, rest⟩ := except_bind_ok done
  cases rest
  exact foldl_insertMetric_distinct c.metrics (mergeFiles_distinct first List.nodup_nil)

theorem resolveAll_distinct {configDir : String} {collectors resolved : List CollectorConfig}
    (done : resolveAll files configDir collectors = .ok resolved) :
    ∀ c ∈ resolved, DistinctNames c.metrics := by
  induction collectors generalizing resolved with
  | nil =>
      cases done
      simp
  | cons c collectors ih =>
      obtain ⟨c', first, later⟩ := except_bind_ok done
      obtain ⟨rest, others, last⟩ := except_bind_ok later
      cases last
      intro collector member
      rcases List.mem_cons.mp member with rfl | old
      · exact resolveMetricsFiles_distinct first
      · exact ih others collector old

theorem loadForPull_distinct {path : String} {config : Config}
    (loaded : Config.loadForPull files path = .ok config) {c : CollectorConfig} (member : c ∈ config.collectors) :
    DistinctNames c.metrics := by
  obtain ⟨content, _, parsing⟩ := except_bind_ok loaded
  obtain ⟨parsed, _, resolving⟩ := except_bind_ok parsing
  obtain ⟨collectors, resolved, last⟩ := except_bind_ok resolving
  cases last
  exact resolveAll_distinct resolved c member

theorem load_distinct {path : String} {config : Config} (loaded : Config.load files path = .ok config)
    {c : CollectorConfig} (member : c ∈ config.collectors) : DistinctNames c.metrics := by
  obtain ⟨pulled, pulling, validating⟩ := except_bind_ok loaded
  obtain ⟨_, _, last⟩ := except_bind_ok validating
  cases last
  exact loadForPull_distinct pulling member

theorem insertMetric_new {merged : List MetricConfig} {metric : MetricConfig}
    (new : metric.name ∉ merged.map (·.name)) : insertMetric merged metric = merged ++ [metric] := by
  have absent : ¬merged.any (·.name = metric.name) := by
    intro present
    obtain ⟨m, member, same⟩ := List.any_eq_true.mp present
    rw [← of_decide_eq_true same] at new
    exact new (List.mem_map_of_mem member)
  rw [insertMetric, if_neg absent]

theorem foldl_insertMetric_new (metrics : List MetricConfig) {merged : List MetricConfig}
    (distinct : DistinctNames (merged ++ metrics)) : metrics.foldl insertMetric merged = merged ++ metrics := by
  induction metrics generalizing merged with
  | nil => rw [List.foldl_nil, List.append_nil]
  | cons metric metrics ih =>
      rw [List.append_cons] at distinct
      have front : DistinctNames (merged ++ [metric]) := by
        rw [DistinctNames, List.map_append] at distinct
        exact (List.nodup_append.mp distinct).1
      have new : metric.name ∉ merged.map (·.name) := by
        rw [DistinctNames, List.map_append] at front
        intro old
        exact (List.nodup_append.mp front).2.2 metric.name old metric.name List.mem_cons_self rfl
      rw [List.foldl_cons, insertMetric_new new, ih distinct, ← List.append_cons]

theorem resolveAll_resolved (files : Files) (configDir : String) {collectors : List CollectorConfig}
    (resolved : ∀ c ∈ collectors, c.metricsFiles = none ∧ DistinctNames c.metrics) :
    resolveAll files configDir collectors = .ok collectors := by
  induction collectors with
  | nil => rfl
  | cons c collectors ih =>
      obtain ⟨noFiles, distinct⟩ := resolved c List.mem_cons_self
      have same : c.resolveMetricsFiles files configDir = .ok c := by
        have metrics : c.metrics.foldl insertMetric [] = c.metrics := foldl_insertMetric_new c.metrics distinct
        obtain ⟨name, protocol, slaveId, pollingInterval, initWrites, prePoll, labels, metricsFiles, all⟩ := c
        cases noFiles
        change Except.ok _ = _
        rw [metrics]
      rw [resolveAll, same, ih fun c member => resolved c (List.mem_cons_of_mem _ member)]
      rfl

end BusExporter.Config
