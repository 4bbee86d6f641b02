import BusExporter.Proof.PullSafety

/-! The account that a pull gives of its metrics, over any readers: which have an entry, which of the entries
have an error, and how they are counted. -/

namespace BusExporter
open Lib Config

section Filters
variable (collectorRe metricRe : Option (String → Bool))

def pairs (collectors : List CollectorConfig) : List (CollectorConfig × MetricConfig) :=
  (collectors.flatMap fun c => c.metrics.map fun m => (c, m)).filter fun p =>
    matching collectorRe p.1.name && matching metricRe p.2.name

def selection (c : CollectorConfig) : List MetricConfig :=
  c.metrics.filter fun m => matching collectorRe c.name && matching metricRe m.name

def selected (collectors : List CollectorConfig) : List CollectorConfig :=
  (collectors.map fun c => { c with metrics := selection collectorRe metricRe c }).filter fun c => c.metrics ≠ []

variable {collectorRe metricRe} {compile : String → Result (String → Bool)}
  {collectorFilter metricFilter : Option String}

theorem selection_of_match {c : CollectorConfig} (named : matching collectorRe c.name = true) :
    selection collectorRe metricRe c = c.metrics.filter fun m => matching metricRe m.name := by
  simp only [selection, named, Bool.true_and]

theorem selection_of_mismatch {c : CollectorConfig} (unnamed : matching collectorRe c.name = false) :
    selection collectorRe metricRe c = [] := by
  simp only [selection, unnamed, Bool.false_and, List.filter_false]

theorem filterCollectors_eq (collectors : List CollectorConfig)
    (compiled : compileFilter compile "collector" collectorFilter = .ok collectorRe)
    (compiled' : compileFilter compile "metric" metricFilter = .ok metricRe) :
    filterCollectors compile collectors collectorFilter metricFilter =
      .ok (selected collectorRe metricRe collectors) := by
  rw [filterCollectors, compiled, compiled']
  apply congrArg Except.ok
  induction collectors with
  | nil => rfl
  | cons c collectors ih =>
      cases named : matching collectorRe c.name with
      | true =>
          have kept : (c :: collectors).filter (fun c => matching collectorRe c.name) =
              c :: collectors.filter fun c => matching collectorRe c.name := List.filter_cons_of_pos named
          rw [kept, List.map_cons, selected, List.map_cons, selection_of_match named, List.filter_cons,
            List.filter_cons, ih]
          simp [selected]
      | false =>
          have dropped : (c :: collectors).filter (fun c => matching collectorRe c.name) =
              collectors.filter fun c => matching collectorRe c.name := List.filter_cons_of_neg (by simp [named])
          rw [dropped, ih, selected, selected, List.map_cons, selection_of_mismatch named,
            List.filter_cons_of_neg (by simp)]

theorem selected_metrics {collectors : List CollectorConfig} {c : CollectorConfig}
    (member : c ∈ selected collectorRe metricRe collectors) : c.metrics ≠ [] := by
  simpa using (List.mem_filter.mp member).2

theorem pairs_cons (c : CollectorConfig) (collectors : List CollectorConfig) :
    pairs collectorRe metricRe (c :: collectors) =
      (selection collectorRe metricRe c).map (fun m => (c, m)) ++ pairs collectorRe metricRe collectors := by
  rw [pairs, List.flatMap_cons, List.filter_append, List.filter_map]
  rfl

theorem selected_pairs (collectors : List CollectorConfig) :
    (selected collectorRe metricRe collectors).flatMap (fun c => c.metrics.map fun m => (c.name, m.name)) =
      (pairs collectorRe metricRe collectors).map fun p => (p.1.name, p.2.name) := by
  induction collectors with
  | nil => rfl
  | cons c collectors ih =>
      rw [pairs_cons, List.map_append, ← ih, selected, List.map_cons, List.filter_cons]
      split_ifs with some
      · rw [List.flatMap_cons, List.map_map]
        rfl
      · have none : selection collectorRe metricRe c = [] := by simpa using some
        rw [none]
        rfl

theorem selected_eq_nil_iff (collectors : List CollectorConfig) :
    selected collectorRe metricRe collectors = [] ↔ pairs collectorRe metricRe collectors = [] := by
  have names : (selected collectorRe metricRe collectors).flatMap (fun c => c.metrics.map fun m => (c.name, m.name)) =
      (pairs collectorRe metricRe collectors).map fun p => (p.1.name, p.2.name) := selected_pairs collectors
  constructor
  · intro none
    rw [none] at names
    exact List.map_eq_nil_iff.mp names.symm
  · intro none
    rw [none, List.map_nil, List.flatMap_eq_nil_iff] at names
    apply List.eq_nil_iff_forall_not_mem.mpr
    intro c member
    exact selected_metrics member (List.map_eq_nil_iff.mp (names c member))

end Filters

inductive Outcome
  | createFailed
  | connectFailed
  | read (results : ReadResults)

def Outcome.Fails (outcome : Outcome) (name : String) : Prop :=
  match outcome with
  | .createFailed | .connectFailed => True
  | .read results => (∃ e, results.metrics.lookup name = some (.error e)) ∨ results.metrics.lookup name = none

section Collection
variable {ρ ω : Type} (factory : MetricReaderFactory ρ ω) (cancelled : ω → Bool)

inductive Gives (c : CollectorConfig) (w : ω) : Outcome → ω → Prop
  | createFailed {e : Error} {w' : ω} (created : factory.create c w = .ok (.error e, w')) :
      Gives c w .createFailed w'
  | connectFailed {reader : ρ} {w₁ : ω} {e : Error} {s : ρ × ω} (created : factory.create c w = .ok (.ok reader, w₁))
      (connected : factory.reader.connect (factory.reader.setMetrics c.metrics (reader, w₁)) = (.error e, s)) :
      Gives c w .connectFailed s.2
  | read {reader : ρ} {w₁ : ω} {s s' : ρ × ω} {results : ReadResults}
      (created : factory.create c w = .ok (.ok reader, w₁))
      (connected : factory.reader.connect (factory.reader.setMetrics c.metrics (reader, w₁)) = (.ok (), s))
      (read : factory.reader.read (fun s => cancelled s.2) s = .ok (results, s')) :
      Gives c w (.read results) (factory.reader.disconnect s').2.2

inductive Panics (c : CollectorConfig) (w : ω) : Prop
  | create {p : Panic} (created : factory.create c w = .error p)
  | read {p : Panic} {reader : ρ} {w₁ : ω} {s : ρ × ω} (created : factory.create c w = .ok (.ok reader, w₁))
      (connected : factory.reader.connect (factory.reader.setMetrics c.metrics (reader, w₁)) = (.ok (), s))
      (read : factory.reader.read (fun s => cancelled s.2) s = .error p)

structure Entry (c : CollectorConfig) (outcome : Outcome) (entry : CollectorEntry) : Prop where
  name : entry.name = c.name
  protocol : entry.protocol = c.protocol.toString
  metrics : List.Forall₂ (fun (m : MetricConfig) (e : MetricEntry) =>
    e.name = m.name ∧ (e.error.isSome ↔ outcome.Fails m.name)) c.metrics entry.metrics

inductive Pulled : List CollectorConfig → ω → List CollectorEntry → ω → Prop
  | nil {w : ω} : Pulled [] w [] w
  | cons {c : CollectorConfig} {rest : List CollectorConfig} {w w₁ w' : ω} {outcome : Outcome}
      {entry : CollectorEntry} {entries : List CollectorEntry} (gives : Gives factory cancelled c w outcome w₁)
      (reports : Entry c outcome entry) (others : Pulled rest w₁ entries w') :
      Pulled (c :: rest) w (entry :: entries) w'

def Interrupted (collectors : List CollectorConfig) (w : ω) : Prop :=
  ∃ before c after entries w₁, collectors = before ++ c :: after ∧ Pulled factory cancelled before w entries w₁ ∧
    Panics factory cancelled c w₁

def Report.extend (report : Report) (entries : List CollectorEntry) : Report :=
  { report.counting (entries.flatMap (·.metrics)) with collectors := report.collectors ++ entries }

theorem extend_nil (report : Report) : report.extend [] = report := by
  simp [Report.extend, Report.counting]

theorem add_extend (report : Report) (c : CollectorConfig) (reading : Except String ReadResults)
    (entries : List CollectorEntry) :
    (report.add c reading).extend entries =
      report.extend (⟨c.name, c.protocol.toString, c.metrics.map (metricEntry reading)⟩ :: entries) := by
  simp [add_eq, Report.extend, Report.counting, Nat.add_assoc]

theorem entry_metricEntry {c : CollectorConfig} {outcome : Outcome} {reading : Except String ReadResults}
    (fails : ∀ m ∈ c.metrics, outcome.Fails m.name ↔
      ¬∃ results value, reading = .ok results ∧ results.metrics.lookup m.name = some (.ok value)) :
    Entry c outcome ⟨c.name, c.protocol.toString, c.metrics.map (metricEntry reading)⟩ := by
  refine ⟨rfl, rfl, ?_⟩
  rw [List.forall₂_map_right_iff, List.forall₂_same]
  intro m member
  obtain ⟨name, none⟩ := metricEntry_reports reading m
  refine ⟨name, ?_⟩
  rw [fails m member, ← none, Option.isSome_iff_ne_none]

theorem fails_read {results : ReadResults} {name : String} :
    (Outcome.read results).Fails name ↔
      ¬∃ results' value, Except.ok (ε := String) results = .ok results' ∧
        results'.metrics.lookup name = some (.ok value) := by
  unfold Outcome.Fails
  cases found : results.metrics.lookup name with
  | none => simp [found]
  | some result =>
      cases result with
      | error e => simp [found]
      | ok value =>
          obtain ⟨rawValue, scaledValue⟩ := value
          simp [found]

theorem readCollector_cases (c : CollectorConfig) (w : ω) :
    (∃ p, factory.readCollector cancelled c w = .error p ∧ Panics factory cancelled c w) ∨
      ∃ reading w' outcome, factory.readCollector cancelled c w = .ok (reading, w') ∧
        Gives factory cancelled c w outcome w' ∧
          Entry c outcome ⟨c.name, c.protocol.toString, c.metrics.map (metricEntry reading)⟩ := by
  unfold MetricReaderFactory.readCollector
  rcases created : factory.create c w with p | ⟨e | reader, w₁⟩
  · exact .inl ⟨p, rfl, .create created⟩
  · refine .inr ⟨_, w₁, .createFailed, rfl, .createFailed created, ?_⟩
    exact entry_metricEntry fun m _ => by simp [Outcome.Fails]
  · change (∃ p, factory.readWith cancelled c.metrics reader w₁ = .error p ∧ _) ∨
      ∃ reading w' outcome, factory.readWith cancelled c.metrics reader w₁ = .ok (reading, w') ∧ _
    unfold MetricReaderFactory.readWith
    rcases connected : factory.reader.connect (factory.reader.setMetrics c.metrics (reader, w₁)) with ⟨e | ⟨⟩, s⟩
    · refine .inr ⟨_, s.2, .connectFailed, rfl, .connectFailed created connected, ?_⟩
      exact entry_metricEntry fun m _ => by simp [Outcome.Fails]
    · dsimp only
      cases read : factory.reader.read (fun s => cancelled s.2) s with
      | error p => exact .inl ⟨p, rfl, .read created connected read⟩
      | ok next =>
          obtain ⟨results, s'⟩ := next
          refine .inr ⟨_, _, .read results, rfl, .read created connected read, ?_⟩
          exact entry_metricEntry fun m _ => fails_read

theorem collectFrom_cases (report : Report) (collectors : List CollectorConfig) (w : ω) :
    (∃ p, factory.collectFrom cancelled report collectors w = .error p ∧
      Interrupted factory cancelled collectors w) ∨
        ∃ entries w', factory.collectFrom cancelled report collectors w = .ok (report.extend entries, w') ∧
          Pulled factory cancelled collectors w entries w' := by
  induction collectors generalizing report w with
  | nil => exact .inr ⟨[], w, by rw [extend_nil]; rfl, .nil⟩
  | cons c collectors ih =>
      rw [MetricReaderFactory.collectFrom]
      rcases readCollector_cases factory cancelled c w with
        ⟨p, read, panics⟩ | ⟨reading, w₁, outcome, read, gives, entry⟩
      · rw [read]
        exact .inl ⟨p, rfl, [], c, collectors, [], w, rfl, .nil, panics⟩
      · rw [read]
        rcases ih (report.add c reading) w₁ with
          ⟨p, collected, before, c', after, entries, w₂, rfl, pulled, panics⟩ | ⟨entries, w', collected, pulled⟩
        · exact .inl ⟨p, collected, c :: before, c', after, _, w₂, rfl, .cons gives entry pulled, panics⟩
        · rw [add_extend] at collected
          exact .inr ⟨_, w', collected, .cons gives entry pulled⟩

theorem collectOnce_cases (collectors : List CollectorConfig) (w : ω) :
    (∃ p, factory.collectOnce cancelled collectors w = .error p ∧ Interrupted factory cancelled collectors w) ∨
      ∃ entries w', factory.collectOnce cancelled collectors w = .ok (Report.extend {} entries, w') ∧
        Pulled factory cancelled collectors w entries w' :=
  collectFrom_cases factory cancelled {} collectors w

variable {factory cancelled}

theorem Entry.names {c : CollectorConfig} {outcome : Outcome} {entry : CollectorEntry}
    (reports : Entry c outcome entry) :
    entry.metrics.map (fun m => (entry.name, m.name)) = c.metrics.map fun m => (c.name, m.name) := by
  rw [reports.name]
  rw [eq_comm, ← List.forall₂_eq_eq_eq, List.forall₂_map_left_iff, List.forall₂_map_right_iff]
  exact reports.metrics.imp fun m e reported => by rw [reported.1]

theorem Pulled.names {collectors : List CollectorConfig} {w w' : ω} {entries : List CollectorEntry}
    (pulled : Pulled factory cancelled collectors w entries w') :
    entries.flatMap (fun e => e.metrics.map fun m => (e.name, m.name)) =
      collectors.flatMap fun c => c.metrics.map fun m => (c.name, m.name) := by
  induction pulled with
  | nil => rfl
  | cons gives reports others ih => rw [List.flatMap_cons, List.flatMap_cons, reports.names, ih]

theorem Pulled.nonempty {collectors : List CollectorConfig} {w w' : ω} {entries : List CollectorEntry}
    (pulled : Pulled factory cancelled collectors w entries w') (asked : ∀ c ∈ collectors, c.metrics ≠ []) :
    ∀ e ∈ entries, e.metrics ≠ [] := by
  induction pulled with
  | nil => simp
  | cons gives reports others ih =>
      obtain ⟨first, rest⟩ := List.forall_mem_cons.mp asked
      refine List.forall_mem_cons.mpr ⟨fun none => first ?_, ih rest⟩
      have lengths := reports.metrics.length_eq
      rw [none] at lengths
      exact List.length_eq_zero_iff.mp lengths

/-- A report has one entry for each pair that is asked for, in their order and under their collectors, and its
counts are those of its entries. -/
structure Accounts (report : Report) (asked : List (CollectorConfig × MetricConfig)) : Prop where
  entries : report.collectors.flatMap (fun e => e.metrics.map fun m => (e.name, m.name)) =
    asked.map fun p => (p.1.name, p.2.name)
  nonempty : ∀ e ∈ report.collectors, e.metrics ≠ []
  total : report.totalMetrics = asked.length
  sum : report.totalMetrics = report.successful + report.failed
  failed : report.failed = (report.collectors.flatMap (·.metrics)).countP (·.error.isSome)

theorem Pulled.accounts {collectorRe metricRe : Option (String → Bool)} {collectors : List CollectorConfig}
    {w w' : ω} {entries : List CollectorEntry}
    (pulled : Pulled factory cancelled (selected collectorRe metricRe collectors) w entries w') :
    Accounts (Report.extend {} entries) (pairs collectorRe metricRe collectors) := by
  have names := pulled.names.trans (selected_pairs collectors)
  have lengths : (entries.flatMap (·.metrics)).length = (pairs collectorRe metricRe collectors).length := by
    have counted := congrArg List.length names
    simpa [List.length_flatMap] using counted
  refine ⟨by simpa [Report.extend] using names, ?_, ?_, ?_, ?_⟩
  · simpa [Report.extend] using pulled.nonempty fun c member => selected_metrics member
  · simpa [Report.extend, Report.counting] using lengths
  · have parts : (entries.flatMap (·.metrics)).length = _ :=
      List.length_eq_countP_add_countP fun e : MetricEntry => e.error.isNone
    have failed : (fun e : MetricEntry => decide ¬e.error.isNone = true) = fun e => e.error.isSome := by
      funext e
      cases e.error <;> rfl
    rw [failed] at parts
    simpa only [Report.extend, Report.counting, Nat.zero_add] using parts
  · simp [Report.extend, Report.counting]

end Collection

section Pull
variable {ρ ω : Type} (factory : MetricReaderFactory ρ ω) (cancelled : ω → Bool)
  {compile : String → Result (String → Bool)} {collectorFilter metricFilter : Option String}
  {collectorRe metricRe : Option (String → Bool)}

/-- Over any readers and whatever becomes of them, a pull has an entry for each pair that its filters ask for,
with an error just where there is no value, counts them all, and says by its exit code whether one failed. -/
theorem pull_accounts (compiled : compileFilter compile "collector" collectorFilter = .ok collectorRe)
    (compiled' : compileFilter compile "metric" metricFilter = .ok metricRe) (config : Config) (w : ω) :
    let asked := pairs collectorRe metricRe config.collectors
    let kept := selected collectorRe metricRe config.collectors
    let run := runPullWith (factory.collectOnce fun _ => false) compile config collectorFilter metricFilter w
    filterCollectors compile config.collectors collectorFilter metricFilter = .ok kept ∧
      (match factory.collectOnce cancelled kept w with
        | .error _ => Interrupted factory cancelled kept w
        | .ok (report, w') => Pulled factory cancelled kept w report.collectors w' ∧ Accounts report asked) ∧
      (asked = [] → run = .ok (.error ⟨"no collectors/metrics match the given filters", []⟩, w)) ∧
      (asked ≠ [] →
        match factory.collectOnce (fun _ => false) kept w with
        | .error p => run = .error p
        | .ok (report, w') => ∃ code, run = .ok (.ok (⟨report, kept.length⟩, code), w') ∧
            (code = 2 ↔ 0 < report.failed) ∧ (code = 0 ∨ code = 2)) := by
  have filtered := filterCollectors_eq config.collectors compiled compiled'
  refine ⟨filtered, ?_, ?_, ?_⟩
  · rcases collectOnce_cases factory cancelled (selected collectorRe metricRe config.collectors) w with
      ⟨p, collected, interrupted⟩ | ⟨entries, w', collected, pulled⟩
    · rw [collected]
      exact interrupted
    · rw [collected]
      refine ⟨?_, pulled.accounts⟩
      simpa [Report.extend] using pulled
  · intro none
    rw [runPullWith, filtered]
    dsimp only
    rw [(selected_eq_nil_iff config.collectors).mpr none]
    rfl
  · intro some
    rw [runPullWith, filtered]
    dsimp only
    have nonempty : (selected collectorRe metricRe config.collectors).isEmpty = false := by
      rw [List.isEmpty_eq_false_iff]
      exact fun none => some ((selected_eq_nil_iff config.collectors).mp none)
    rw [nonempty]
    cases factory.collectOnce (fun _ => false) (selected collectorRe metricRe config.collectors) w with
    | error p => rfl
    | ok next =>
        obtain ⟨report, w'⟩ := next
        refine ⟨_, rfl, ?_, ?_⟩
        · split_ifs with failed <;> simp [failed]
        · split_ifs <;> simp

def benchFactory : MetricReaderFactory Unit Unit where
  create c w := if c.name = "tank" then .ok (.error ⟨"no such device", []⟩, w) else .ok (.ok (), w)
  reader :=
    { setMetrics := fun _ s => s
      connect := fun s => (.ok (), s)
      disconnect := fun s => (.ok (), s)
      isConnected := fun _ => true
      read := fun _ s => .ok (⟨AList.singleton "level" (.ok (1, 1)), 1⟩, s) }

def benchMetric (name : String) : MetricConfig := { name, metricType := .gauge, dataType := .u16 }

def benchConfig : Config where
  exporters := {}
  collectors :=
    [{ name := "boiler", protocol := .modbusTcp "127.0.0.1:502", metrics := [benchMetric "level", benchMetric "flow"] },
     { name := "tank", protocol := .modbusTcp "127.0.0.1:502", metrics := [benchMetric "level"] }]

def sameName (pattern : String) : Result (String → Bool) := .ok fun name => name = pattern

theorem pull_accounts_bench :
    ∃ report, runPullWith (benchFactory.collectOnce fun _ => false) sameName benchConfig
        none (some "level") () = .ok (.ok (⟨report, 2⟩, 2), ()) ∧
      Accounts report (pairs none (some (· = "level")) benchConfig.collectors) ∧
        report.totalMetrics = 2 ∧ report.failed = 1 := by
  have kept : selected none (some (· = "level")) benchConfig.collectors =
      [{ name := "boiler", protocol := .modbusTcp "127.0.0.1:502", metrics := [benchMetric "level"] },
       { name := "tank", protocol := .modbusTcp "127.0.0.1:502", metrics := [benchMetric "level"] }] := rfl
  have counted : (benchFactory.collectOnce (fun _ => false)
      (selected none (some (· = "level")) benchConfig.collectors) ()).map
        (fun r => (r.1.totalMetrics, r.1.failed)) = .ok (2, 1) := by
    rw [kept]
    rfl
  have compiled : compileFilter sameName "collector" none = .ok none := rfl
  have compiled' : compileFilter sameName "metric" (some "level") = .ok (some (· = "level")) := rfl
  obtain ⟨-, collected, -, ran⟩ := pull_accounts benchFactory (fun _ => false) compiled compiled' benchConfig ()
  specialize ran (by simp [benchConfig, pairs, matching, benchMetric])
  cases outcome : benchFactory.collectOnce (fun _ => false)
      (selected none (some (· = "level")) benchConfig.collectors) () with
  | error p =>
      rw [outcome] at counted
      cases counted
  | ok next =>
      obtain ⟨report, w'⟩ := next
      rw [outcome] at counted collected ran
      obtain ⟨total, failed⟩ := Prod.mk.inj (Except.ok.inj counted)
      obtain ⟨code, run, two, -⟩ := ran
      have failing : 0 < report.failed := by rw [failed]; exact Nat.one_pos
      rw [two.mpr failing] at run
      exact ⟨report, run, collected.2, total, failed⟩

end Pull
end BusExporter
