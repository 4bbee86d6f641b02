import BusExporter.Proof.Publication
import BusExporter.Proof.Rendering
import BusExporter.Proof.RunSteps
import BusExporter.Proof.Validated

/-! When a scrape has no two samples of one series. Series are told apart by their names before sanitising,
so the names of two of them can become one. -/

namespace BusExporter.Prometheus
open Lib Exposition Config

theorem sanitizeChar_plain {position : Nat} {c : Char} (plain : '_' ∉ sanitizeChar position c) :
    sanitizeChar position c = [c] := by
  unfold sanitizeChar at plain ⊢
  split_ifs at plain ⊢ with kept digit
  · simp at plain
  · rfl
  · simp at plain

theorem sanitizeName_plain {s : String} (plain : '_' ∉ (sanitizeName s).toList) : sanitizeName s = s := by
  have whole {cs : List Char} {start : Nat}
      (free : '_' ∉ (cs.zipIdx start).flatMap fun indexed => sanitizeChar indexed.2 indexed.1) :
      ((cs.zipIdx start).flatMap fun indexed => sanitizeChar indexed.2 indexed.1) = cs := by
    induction cs generalizing start with
    | nil => rfl
    | cons c cs ih =>
        rw [List.zipIdx_cons, List.flatMap_cons, List.mem_append, not_or] at free
        have first : sanitizeChar start c = [c] := sanitizeChar_plain free.1
        rw [List.zipIdx_cons, List.flatMap_cons, ih free.2]
        exact congrArg (· ++ cs) first
  simp only [sanitizeName] at plain ⊢
  split_ifs at plain ⊢ with empty
  · simp at plain
  · rw [String.toList_ofList] at plain
    exact (congrArg String.ofList (whole plain)).trans String.ofList_toList

theorem eq_of_sanitizeName {target k : String} (plain : '_' ∉ target.toList)
    (same : sanitizeName k = target) : k = target := by
  rw [← same] at plain
  rw [← same, sanitizeName_plain plain]

theorem mem_labels {m : MetricValue} {key value : Text} :
    (key, value) ∈ (sampleOf m).labels ↔
      ∃ k v, m.labels[k]? = some v ∧ (sanitizeName k).toList = key ∧ v.toList = value := by
  unfold sampleOf
  rw [List.mem_map]
  constructor
  · rintro ⟨⟨k, v⟩, member, same⟩
    obtain ⟨rfl, rfl⟩ := Prod.mk.inj same
    exact ⟨k, v, Std.TreeMap.mem_toList_iff_getElem?_eq_some.mp member, rfl, rfl⟩
  · rintro ⟨k, v, found, rfl, rfl⟩
    exact ⟨(k, v), Std.TreeMap.mem_toList_iff_getElem?_eq_some.mpr found, rfl⟩

theorem plain_label {m : MetricValue} {k : String} (plain : '_' ∉ k.toList) (kept : sanitizeName k = k)
    (v : String) : (k.toList, v.toList) ∈ (sampleOf m).labels ↔ m.labels[k]? = some v := by
  rw [mem_labels]
  constructor
  · rintro ⟨k', v', found, key, value⟩
    rw [eq_of_sanitizeName plain (String.toList_inj.mp key), String.toList_inj.mp value] at found
    exact found
  · intro found
    exact ⟨k, v, found, by rw [kept], rfl⟩

theorem sameSeries_label {m m' : MetricValue} {k : String}
    (same : SameSeries (sampleOf m) (sampleOf m')) (plain : '_' ∉ k.toList) (kept : sanitizeName k = k) :
    m.labels[k]? = m'.labels[k]? := by
  apply Option.ext
  intro v
  rw [← plain_label plain kept, ← plain_label plain kept]
  exact same.2 _

theorem sameSeries_of_labels {m m' : MetricValue} (name : fqname m = fqname m')
    (labels : ∀ k : String, m.labels[k]? = m'.labels[k]?) : SameSeries (sampleOf m) (sampleOf m') := by
  refine ⟨congrArg String.toList name, ?_⟩
  rintro ⟨key, value⟩
  simp only [mem_labels, labels]

theorem sameSeries_name {m m' : MetricValue} (same : SameSeries (sampleOf m) (sampleOf m')) :
    fqname m = fqname m' := String.toList_inj.mp same.1

theorem nodup_labels {m : MetricValue} :
    ((sampleOf m).labels.map (·.1)).Nodup ↔
      ∀ k k', m.labels[k]? ≠ none → m.labels[k']? ≠ none → sanitizeName k = sanitizeName k' → k = k' := by
  have keys : (sampleOf m).labels.map (·.1) = m.labels.keys.map fun k => (sanitizeName k).toList := by
    rw [← Std.TreeMap.map_fst_toList_eq_keys, List.map_map, sampleOf, List.map_map]
    rfl
  have present (k : String) : k ∈ m.labels.keys ↔ m.labels[k]? ≠ none := by
    rw [Std.TreeMap.mem_keys, Std.TreeMap.mem_iff_isSome_getElem?, Option.isSome_iff_ne_none]
  rw [keys, List.nodup_map_iff_inj_on Std.TreeMap.nodup_keys]
  simp only [present, String.toList_inj]
  constructor
  · intro apart k k' found found' same
    exact apart k found k' found' same
  · intro apart k found k' found' same
    exact apart k k' found found' same

section Snapshots
variable (config : Config) (c : CollectorConfig)

def configLabel (k : String) : Option String := (c.labels.lookup k).or (config.globalLabels.lookup k)

def unitLabel (m : MetricValue) : Option String :=
  if m.unit = "" then configLabel config c "unit" else some m.unit

structure Labelled (snapshot : List MetricValue) : Prop where
  names : (snapshot.map (·.name)).Nodup
  labels : ∀ m ∈ snapshot, ∀ k : String, m.labels[k]? =
    if k = "unit" then unitLabel config c m
    else if k = "collector" then some c.name else configLabel config c k

/-- No two label keys of the collector become one, and no two names that share their unit label. -/
structure Apart (snapshot : List MetricValue) : Prop where
  keys : snapshot ≠ [] → ∀ k k', configLabel config c k ≠ none → configLabel config c k' ≠ none →
    sanitizeName k = sanitizeName k' → k = k'
  series : ∀ m ∈ snapshot, ∀ m' ∈ snapshot, buildMetricName m.name m.unit = buildMetricName m'.name m'.unit →
    unitLabel config c m = unitLabel config c m' → m.name = m'.name

variable {config c}

theorem Labelled.collector {snapshot : List MetricValue} (labelled : Labelled config c snapshot)
    {m : MetricValue} (member : m ∈ snapshot) : m.labels["collector"]? = some c.name := by
  rw [labelled.labels m member, if_neg (by decide), if_pos rfl]

theorem Labelled.unit {snapshot : List MetricValue} (labelled : Labelled config c snapshot)
    {m : MetricValue} (member : m ∈ snapshot) : m.labels["unit"]? = unitLabel config c m := by
  rw [labelled.labels m member, if_pos rfl]

theorem Labelled.configured {snapshot : List MetricValue} (labelled : Labelled config c snapshot)
    {m : MetricValue} (member : m ∈ snapshot) {k : String} (given : configLabel config c k ≠ none) :
    m.labels[k]? ≠ none := by
  rw [labelled.labels m member, unitLabel]
  split_ifs with unit unitless
  · rwa [← unit]
  · simp
  · simp
  · exact given

theorem Labelled.keys_iff {snapshot : List MetricValue} (labelled : Labelled config c snapshot)
    {m : MetricValue} (member : m ∈ snapshot) :
    ((sampleOf m).labels.map (·.1)).Nodup ↔
      ∀ k k', configLabel config c k ≠ none → configLabel config c k' ≠ none →
        sanitizeName k = sanitizeName k' → k = k' := by
  have unit : sanitizeName "unit" = "unit" := by decide
  have collector : sanitizeName "collector" = "collector" := by decide
  rw [nodup_labels]
  constructor
  · intro apart k k' given given'
    exact apart k k' (labelled.configured member given) (labelled.configured member given')
  · intro apart k k' found found' same
    -- the keys that the store adds are already sanitised, and no other key becomes one of them
    by_cases isUnit : k = "unit" ∨ k' = "unit"
    · rcases isUnit with rfl | rfl
      · exact (eq_of_sanitizeName (by decide) (same.symm.trans unit)).symm
      · exact eq_of_sanitizeName (by decide) (same.trans unit)
    by_cases isCollector : k = "collector" ∨ k' = "collector"
    · rcases isCollector with rfl | rfl
      · exact (eq_of_sanitizeName (by decide) (same.symm.trans collector)).symm
      · exact eq_of_sanitizeName (by decide) (same.trans collector)
    · rw [not_or] at isUnit isCollector
      rw [labelled.labels m member, if_neg isUnit.1, if_neg isCollector.1] at found
      rw [labelled.labels m member, if_neg isUnit.2, if_neg isCollector.2] at found'
      exact apart k k' found found' same

theorem Labelled.same_iff {snapshot : List MetricValue} (labelled : Labelled config c snapshot)
    {m m' : MetricValue} (member : m ∈ snapshot) (member' : m' ∈ snapshot) :
    SameSeries (sampleOf m) (sampleOf m') ↔
      fqname m = fqname m' ∧ unitLabel config c m = unitLabel config c m' := by
  constructor
  · intro same
    have unit := sameSeries_label same (k := "unit") (by decide) (by decide)
    rw [labelled.unit member, labelled.unit member'] at unit
    exact ⟨sameSeries_name same, unit⟩
  · rintro ⟨name, unit⟩
    apply sameSeries_of_labels name
    intro k
    rw [labelled.labels m member, labelled.labels m' member', unit]

theorem Labelled.apart_iff {snapshot : List MetricValue} (labelled : Labelled config c snapshot) :
    Apart config c snapshot ↔ DuplicateFree (snapshot.map sampleOf) := by
  have names := List.pairwise_map.mp labelled.names
  constructor
  · intro apart
    refine ⟨?_, List.pairwise_map.mpr (names.imp_of_mem ?_)⟩
    · intro s inSamples
      obtain ⟨m, member, rfl⟩ := List.mem_map.mp inSamples
      exact (labelled.keys_iff member).mpr (apart.keys (List.ne_nil_of_mem member))
    · intro m m' member member' different same
      obtain ⟨name, unit⟩ := (labelled.same_iff member member').mp same
      exact different (apart.series m member m' member' name unit)
  · intro free
    refine ⟨?_, ?_⟩
    · intro nonempty
      obtain ⟨m, member⟩ := List.exists_mem_of_ne_nil snapshot nonempty
      exact (labelled.keys_iff member).mp (free.labels _ (List.mem_map_of_mem member))
    · intro m member m' member' name unit
      have same := (labelled.same_iff member member').mpr ⟨name, unit⟩
      by_contra different
      have series := List.pairwise_map.mp free.series
      have symmetric : Std.Symm fun a b => ¬SameSeries (sampleOf a) (sampleOf b) :=
        ⟨fun _ _ apart equal => apart equal.symm⟩
      exact series.forall member member' (fun equal => different (by rw [equal])) same

end Snapshots

variable {config : Config}

def Serves (config : Config) (store : MetricStore) : Prop :=
  ∀ name snapshot, store.lookup name = some snapshot →
    ∃ c ∈ config.collectors, c.name = name ∧ Labelled config c snapshot

theorem Serves.other {store : MetricStore} (serves : Serves config store)
    {e e' : Σ _ : String, List MetricValue} (inStore : e ∈ store.entries) (inStore' : e' ∈ store.entries)
    (different : e.1 ≠ e'.1) {m m' : MetricValue} (member : m ∈ e.2) (member' : m' ∈ e'.2) :
    ¬SameSeries (sampleOf m) (sampleOf m') := by
  intro same
  obtain ⟨c, -, named, labelled⟩ := serves e.1 e.2 (AList.mem_lookup_iff.mpr inStore)
  obtain ⟨c', -, named', labelled'⟩ := serves e'.1 e'.2 (AList.mem_lookup_iff.mpr inStore')
  have collector := sameSeries_label same (k := "collector") (by decide) (by decide)
  rw [labelled.collector member, labelled'.collector member', named, named'] at collector
  exact different (Option.some.inj collector)

theorem duplicateFree_stored {store : MetricStore} (serves : Serves config store) :
    DuplicateFree ((stored store).map sampleOf) ↔
      ∀ e ∈ store.entries, DuplicateFree (e.2.map sampleOf) := by
  have keys := List.pairwise_map.mp store.nodupKeys
  rw [stored, List.map_flatMap]
  constructor
  · intro free e member
    refine ⟨fun s inSamples => free.labels s (List.mem_flatMap.mpr ⟨e, member, inSamples⟩), ?_⟩
    exact (List.pairwise_flatMap.mp free.series).1 e member
  · intro free
    refine ⟨?_, List.pairwise_flatMap.mpr ⟨fun e member => (free e member).series, ?_⟩⟩
    · intro s inSamples
      obtain ⟨e, member, inside⟩ := List.mem_flatMap.mp inSamples
      exact (free e member).labels s inside
    · apply keys.imp_of_mem
      intro e e' member member' different s inside s' inside'
      obtain ⟨m, inSnapshot, rfl⟩ := List.mem_map.mp inside
      obtain ⟨m', inSnapshot', rfl⟩ := List.mem_map.mp inside'
      exact serves.other member member' different inSnapshot inSnapshot'

theorem Serves.apart_iff {store : MetricStore} (serves : Serves config store)
    (distinct : (config.collectors.map (·.name)).Nodup) :
    (∀ e ∈ store.entries, DuplicateFree (e.2.map sampleOf)) ↔
      ∀ c ∈ config.collectors, Apart config c (store.metricsFor c.name) := by
  constructor
  · intro free c member
    cases found : store.lookup c.name with
    | none =>
        rw [MetricStore.metricsFor, found]
        exact ⟨fun nonempty => absurd rfl nonempty, fun m inside => absurd inside List.not_mem_nil⟩
    | some snapshot =>
        obtain ⟨c', member', named, labelled⟩ := serves _ _ found
        obtain rfl : c' = c := List.inj_on_of_nodup_map distinct member' member named
        rw [MetricStore.metricsFor, found]
        exact labelled.apart_iff.mpr (free ⟨c'.name, snapshot⟩ (AList.mem_lookup_iff.mp found))
  · rintro apart ⟨name, snapshot⟩ member
    have found := AList.mem_lookup_iff.mpr member
    obtain ⟨c, inConfig, rfl, labelled⟩ := serves name snapshot found
    have here := apart c inConfig
    rw [MetricStore.metricsFor, found] at here
    exact labelled.apart_iff.mp here

def Scrapes (text : String) : Prop :=
  ∃ lines, parse text.toList = some lines ∧ DuplicateFree (samples lines)

theorem scrapes_iff (order : RandomState) (store : MetricStore) :
    Scrapes (renderMetrics order store) ↔ DuplicateFree ((stored store).map sampleOf) := by
  have parsed := parse_families order store
  have perm := samples_perm order store
  constructor
  · rintro ⟨lines, read, free⟩
    obtain rfl := Option.some.inj (parsed.symm.trans read)
    rw [samples_families] at free
    exact free.perm perm
  · intro free
    refine ⟨_, parsed, ?_⟩
    rw [samples_families]
    exact free.perm perm.symm

end BusExporter.Prometheus

namespace BusExporter.Collector
open Lib Config

variable {σ : Type} {t : Task σ}

def Bare (cache : HashMap String MetricValue) : Prop :=
  ∀ k v, cache.lookup k = some v → ∀ label : String, v.labels[label]? = none

theorem bare_empty : Bare ∅ := by
  intro k v found
  simp at found

theorem bare_mergeCaches {env : Env} {prevCache localCache : HashMap String MetricValue}
    {errorCounts : HashMap String Nat} (previous : Bare prevCache) (fresh : Bare localCache) :
    Bare (mergeCaches env prevCache localCache errorCounts) :=
  mergeCaches_all (fun _ _ _ _ bare => bare) (fun _ _ _ _ => Std.TreeMap.getElem?_emptyc) previous fresh

theorem bare_step {s s' : State σ} {events : List (Event σ)} (bare : Bare s.prevCache ∧ Bare s.localCache)
    (step : TaskStep t s s' events) : Bare s'.prevCache ∧ Bare s'.localCache := by
  cases step
  case cycle place => exact ⟨bare.1, bare_empty⟩
  case stored env read name raw scaled cfg rest place known =>
      refine ⟨bare.1, ?_⟩
      intro k v found label
      by_cases same : k = name
      · subst same
        rw [AList.lookup_insert] at found
        cases found
        exact Std.TreeMap.getElem?_emptyc
      · rw [AList.lookup_insert_ne same] at found
        exact bare.2 k v found label
  case published env read place => exact ⟨bare_mergeCaches bare.1 bare.2, bare.2⟩
  all_goals exact bare

theorem labelled_publish {config : Config} (env : Env) {s : State σ}
    (globalLabels : t.globalLabels =
      config.globalLabels.entries.foldl (fun labels e => labels.insert e.1 e.2) ∅)
    (bare : Bare s.prevCache ∧ Bare s.localCache) :
    Prometheus.Labelled config t.collector ((publishStep t env s).1.store.metricsFor t.collector.name) := by
  refine ⟨MetricStore.metricsFor_publish .. ▸ MetricStore.nodup_snapshot .., ?_⟩
  intro m member k
  obtain ⟨m₀, given, rfl⟩ := MetricStore.mem_snapshot (MetricStore.metricsFor_publish .. ▸ member)
  obtain ⟨e, walked, rfl⟩ := List.mem_map.mp given
  have unlabelled := bare_mergeCaches bare.1 bare.2 e.1 e.2 (HashMap.mem_iter.mp walked) k
  rw [MetricStore.getElem?_withLabels, unlabelled, Option.none_or, MetricStore.getElem?_baseLabels,
    globalLabels, MetricStore.getElem?_collected, MetricStore.getElem?_collected,
    Prometheus.unitLabel, MetricStore.withLabels_unit]
  by_cases isUnit : k = "unit"
  · subst isUnit
    by_cases unitless : e.2.unit = ""
    · simp [unitless, Prometheus.configLabel]
    · simp [unitless]
  · simp [isUnit, Prometheus.configLabel]

end BusExporter.Collector

namespace BusExporter.RunCommand
open Lib Config Collector Prometheus

variable {config : Config} {σ : Fin config.collectors.length → Type} {t : ∀ i, Collector.Task (σ i)}

structure Labels (config : Config) {σ : Fin config.collectors.length → Type} (s : System σ) : Prop where
  bare : ∀ i, Bare (s.collectors i).prevCache ∧ Bare (s.collectors i).localCache
  serves : Serves config s.store.map

theorem labels_step (spawns : Spawns config t) {s s' : System σ} {input : Input config.collectors.length}
    {events : List (Event σ)} (labels : Labels config s) (step : Step t s input s' events) :
    Labels config s' := by
  cases step with
  | main moves =>
      refine ⟨fun i => ?_, ?_⟩
      · obtain ⟨shutdown, same, -⟩ := moves.collectors i
        rw [same]
        exact labels.bare i
      · rw [moves.frame.1]
        exact labels.serves
  | @collector i env next own action =>
      have bare : Bare (view s i).prevCache ∧ Bare (view s i).localCache := labels.bare i
      refine ⟨fun j => ?_, ?_⟩
      · by_cases here : j = i
        · subst here
          simp only [Function.update_self]
          exact bare_step bare action
        · simp only [Function.update_of_ne here]
          exact labels.bare j
      · rcases store_step action with ⟨same, -⟩ | ⟨env, rfl, rfl⟩
        · simp only [same]
          exact labels.serves
        · intro name snapshot found
          have labelled := labelled_publish env (spawns.globalLabels i) bare
          by_cases here : name = (t i).collector.name
          · subst here
            refine ⟨(t i).collector, ?_, rfl, ?_⟩
            · rw [spawns.collector i]
              exact List.getElem_mem _
            · rw [MetricStore.metricsFor, found] at labelled
              exact labelled
          · apply labels.serves name snapshot
            simp only [publishStep, MetricStore.publish, view] at found
            rwa [AList.lookup_insert_ne here] at found
  | ticked | flushing | visited | collected | flushed | stopped => exact ⟨labels.bare, labels.serves⟩

theorem labels_start (t : ∀ i, Collector.Task (σ i)) (worlds : ∀ i, σ i) :
    Labels config (spawned t worlds) := by
  refine ⟨fun i => ⟨bare_empty, bare_empty⟩, ?_⟩
  intro name snapshot found
  cases found

theorem labels_run (spawns : Spawns config t) {worlds : ∀ i, σ i} {trace : List (Event σ)} {s : System σ}
    (run : (machine t).Run (spawned t worlds) trace s) : Labels config s := by
  apply Machine.Run.invariant _ _ run
  · exact labels_start t worlds
  · intro trace s input s' events previous labels action
    exact labels_step spawns labels (step_cases t action)

/-- Over every run of the collectors of a validated config, whatever the devices answer, a scrape is free of
duplicates exactly when sanitising keeps the label keys of each collector apart and the names of its stored
series. -/
theorem scrape_distinct_iff (valid : config.validate = .ok ()) (spawns : Spawns config t)
    {worlds : ∀ i, σ i} {trace : List (Event σ)} {s : System σ}
    (run : (machine t).Run (spawned t worlds) trace s) (order : RandomState) :
    Scrapes (renderMetrics order s.store.map) ↔
      ∀ c ∈ config.collectors, Apart config c (MetricStore.metricsFor s.store.map c.name) := by
  have serves := (labels_run spawns run).serves
  rw [scrapes_iff, duplicateFree_stored serves]
  exact serves.apart_iff (validate_names valid)

def pairConfig (first second : String) : Config where
  exporters := { prometheus := some { enabled := true } }
  collectors := [(Script.task [Script.metric first, Script.metric second] []).collector]

def pairTask (first second : String) (_ : Fin (pairConfig first second).collectors.length) :
    Collector.Task Script :=
  Script.task [Script.metric first, Script.metric second] []

def pairStart (first second : String) :
    System fun _ : Fin (pairConfig first second).collectors.length => Script :=
  spawned (pairTask first second) fun _ => { reads := [([(first, some 1), (second, some 2)], true)] }

theorem pair_spawns (first second : String) : Spawns (pairConfig first second) (pairTask first second) := by
  refine ⟨fun i => ?_, fun i => rfl⟩
  obtain rfl : i = (0 : Fin 1) := Subsingleton.elim (α := Fin 1) i 0
  rfl

def pairCycle (first second : String) : List (Input (pairConfig first second).collectors.length) :=
  List.replicate 8 (.collector ⟨0, Nat.one_pos⟩ {})

def publishedNames (s : System fun _ : Fin 1 => Script) : List (String × String) :=
  (MetricStore.metricsFor s.store.map "boiler").map fun m => (m.name, m.unit)

theorem mem_publishedNames {s : System fun _ : Fin 1 => Script} {m : MetricValue}
    (member : m ∈ MetricStore.metricsFor s.store.map "boiler") : (m.name, m.unit) ∈ publishedNames s :=
  List.mem_map.mpr ⟨m, member, rfl⟩

theorem scrape_distinct_boiler :
    ∃ trace s, (machine (pairTask "level" "flow")).Run (pairStart "level" "flow") trace s ∧
      publishedNames s = [("flow", ""), ("level", "")] ∧ ∀ order, Scrapes (renderMetrics order s.store.map) := by
  have cycled : ((machine (pairTask "level" "flow")).exec (pairStart "level" "flow")
      (pairCycle "level" "flow")).map (fun run => publishedNames run.2) = some [("flow", ""), ("level", "")] := rfl
  obtain ⟨⟨trace, s⟩, executed, names⟩ := Option.map_eq_some_iff.mp cycled
  have run := Machine.exec_run executed
  refine ⟨trace, s, run, names, fun order => ?_⟩
  have valid : (pairConfig "level" "flow").validate = .ok () := by decide
  apply (scrape_distinct_iff valid (pair_spawns _ _) run order).mpr
  intro c member
  obtain rfl := List.mem_singleton.mp member
  refine ⟨fun _ k k' given => absurd rfl given, ?_⟩
  intro m inSnapshot m' inSnapshot' same _
  have first := mem_publishedNames inSnapshot
  have second := mem_publishedNames inSnapshot'
  dsimp only at names
  rw [names] at first second
  simp only [List.mem_cons, Prod.mk.injEq, List.not_mem_nil, or_false] at first second
  rcases first with ⟨name, unit⟩ | ⟨name, unit⟩ <;> rcases second with ⟨name', unit'⟩ | ⟨name', unit'⟩
  · rw [name, name']
  · rw [name, name', unit, unit'] at same
    exact absurd same (by decide)
  · rw [name, name', unit, unit'] at same
    exact absurd same (by decide)
  · rw [name, name']

/-- The names of the metrics `flow-in` and `flow.in` are the same once sanitised. -/
theorem scrape_repeats_series :
    ∃ trace s, (pairConfig "flow-in" "flow.in").validate = .ok () ∧
      Spawns (pairConfig "flow-in" "flow.in") (pairTask "flow-in" "flow.in") ∧
      (machine (pairTask "flow-in" "flow.in")).Run (pairStart "flow-in" "flow.in") trace s ∧
      ∀ order, ¬Scrapes (renderMetrics order s.store.map) := by
  have cycled : ((machine (pairTask "flow-in" "flow.in")).exec (pairStart "flow-in" "flow.in")
      (pairCycle "flow-in" "flow.in")).map (fun run => publishedNames run.2) =
        some [("flow.in", ""), ("flow-in", "")] := rfl
  obtain ⟨⟨trace, s⟩, executed, names⟩ := Option.map_eq_some_iff.mp cycled
  have run := Machine.exec_run executed
  have valid : (pairConfig "flow-in" "flow.in").validate = .ok () := by decide
  refine ⟨trace, s, valid, pair_spawns _ _, run, fun order scrapes => ?_⟩
  have serves := (labels_run (pair_spawns _ _) run).serves
  rw [scrapes_iff, duplicateFree_stored serves] at scrapes
  have apart := (serves.apart_iff (validate_names valid)).mp scrapes _ List.mem_cons_self
  have dotted : ("flow.in", "") ∈ publishedNames s := by simp [names]
  have dashed : ("flow-in", "") ∈ publishedNames s := by simp [names]
  obtain ⟨m, member, same⟩ := List.mem_map.mp dotted
  obtain ⟨m', member', same'⟩ := List.mem_map.mp dashed
  obtain ⟨name, unit⟩ := Prod.mk.inj same
  obtain ⟨name', unit'⟩ := Prod.mk.inj same'
  have names_eq := apart.series m member m' member'
    (by rw [name, name', unit, unit']; decide) (by rw [unitLabel, unitLabel, unit, unit'])
  rw [name, name'] at names_eq
  exact absurd names_eq (by decide)

end BusExporter.RunCommand
