import BusExporter.Lib.Lists
import BusExporter.Model.Watch
import BusExporter.Proof.Pulls

/-! The account that a watch gives of itself: its lines, the waits between them, and the summary and exit code at
the end. -/

namespace BusExporter.Watch
open Lib Config

section Setup
variable {collectorRe metricRe : Option (String → Bool)} (interval : Option Duration)

theorem overridden_metrics (c : CollectorConfig) : (overridden interval c).metrics = c.metrics := by
  cases interval <;> rfl

theorem overridden_name (c : CollectorConfig) : (overridden interval c).name = c.name := by
  cases interval <;> rfl

theorem selected_overridden (collectors : List CollectorConfig) :
    selected collectorRe metricRe (collectors.map (overridden interval)) =
      (selected collectorRe metricRe collectors).map (overridden interval) := by
  have commutes (c : CollectorConfig) : ({ overridden interval c with
      metrics := selection collectorRe metricRe (overridden interval c) } : CollectorConfig) =
        overridden interval { c with metrics := selection collectorRe metricRe c } := by
    cases interval <;> rfl
  rw [selected, selected, List.map_map, List.filter_map, List.filter_map, List.map_map]
  simp only [Function.comp_def, commutes, overridden_metrics]

theorem pairs_overridden (collectors : List CollectorConfig) :
    (pairs collectorRe metricRe (collectors.map (overridden interval))).map (fun p => (p.1.name, p.2.name)) =
      (pairs collectorRe metricRe collectors).map fun p => (p.1.name, p.2.name) := by
  rw [← selected_pairs, ← selected_pairs, selected_overridden, List.flatMap_map]
  simp only [overridden_metrics, overridden_name]

theorem accounts_overridden {report : Report} {collectors : List CollectorConfig}
    (accounts : Accounts report (pairs collectorRe metricRe (collectors.map (overridden interval)))) :
    Accounts report (pairs collectorRe metricRe collectors) := by
  have names : (pairs collectorRe metricRe (collectors.map (overridden interval))).map (fun p => (p.1.name, p.2.name)) =
      (pairs collectorRe metricRe collectors).map fun p => (p.1.name, p.2.name) := pairs_overridden interval collectors
  have lengths := congrArg List.length names
  rw [List.length_map, List.length_map] at lengths
  exact ⟨accounts.entries.trans names, accounts.nonempty, accounts.total.trans lengths, accounts.sum, accounts.failed⟩

end Setup

theorem loopInterval_min {collectors : List CollectorConfig} (nonempty : collectors ≠ []) :
    (∃ c ∈ collectors, loopInterval collectors = c.pollingInterval) ∧
      ∀ c ∈ collectors, loopInterval collectors ≤ c.pollingInterval := by
  cases least : (collectors.map (·.pollingInterval)).min? with
  | none =>
      rw [List.min?_eq_none_iff, List.map_eq_nil_iff] at least
      exact absurd least nonempty
  | some d =>
      obtain ⟨member, below⟩ := List.min?_eq_some_iff.mp least
      obtain ⟨c, inside, same⟩ := List.mem_map.mp member
      have found : loopInterval collectors = d := by rw [loopInterval, least, Option.getD_some]
      rw [found]
      exact ⟨⟨c, inside, same.symm⟩, fun c inside => below _ (List.mem_map_of_mem inside)⟩

theorem watchCommand_cases {compile : String → Result (String → Bool)} {parse : String → Except String Duration}
    {config : Config} {collector metric interval : Option String} {collectorRe metricRe : Option (String → Bool)}
    {collectors : List CollectorConfig} {loop : Duration}
    (compiled : compileFilter compile "collector" collector = .ok collectorRe)
    (compiled' : compileFilter compile "metric" metric = .ok metricRe)
    (prepared : watchCommand compile parse config collector metric interval = .ok (collectors, loop)) :
    ∃ override, intervalOverride parse interval = .ok override ∧
      collectors = (selected collectorRe metricRe config.collectors).map (overridden override) ∧ collectors ≠ [] ∧
        loop = loopInterval collectors := by
  simp only [watchCommand, filterCollectors_eq config.collectors compiled compiled', bind, Except.bind] at prepared
  split_ifs at prepared with empty
  cases given : intervalOverride parse interval with
  | error e =>
      rw [given] at prepared
      cases prepared
  | ok override =>
      rw [given] at prepared
      cases prepared
      refine ⟨override, rfl, rfl, ?_, rfl⟩
      intro nothing
      exact empty (List.isEmpty_iff.mpr (List.map_eq_nil_iff.mp nothing))

section Steps
variable {ω : Type} (collect : List CollectorConfig → ω → Except Panic (Report × ω)) (cancelled : ω → Bool)
  (collectors : List CollectorConfig) (interval : Duration)

inductive WatchStep (s : State ω) : State ω → List Event → Prop
  | finished (running : s.pc = .head ∨ s.pc = .sleeping) (stopped : cancelled s.world = true) :
      WatchStep s s.finish.1 s.finish.2
  | started (now : SystemTime) (place : s.pc = .head) (running : cancelled s.world = false) :
      WatchStep s { s with pc := .collecting now, iteration := s.iteration + 1 } []
  | panicked {timestamp : SystemTime} {cause : Panic} (place : s.pc = .collecting timestamp)
      (failed : collect collectors s.world = .error cause) : WatchStep s { s with pc := .panicked cause } []
  | collected {timestamp : SystemTime} {report : Report} {world : ω} (place : s.pc = .collecting timestamp)
      (done : collect collectors s.world = .ok (report, world)) :
      WatchStep s (s.collected collectors timestamp report world).1 (s.collected collectors timestamp report world).2
  | slept (place : s.pc = .sleeping) : WatchStep s { s with pc := .head } [.slept interval]
  | passed {world : ω} (kept : cancelled s.world = true → cancelled world = true) : WatchStep s { s with world } []

variable {collect cancelled collectors interval}

theorem step_cases {s s' : State ω} {input : Input ω} {events : List Event}
    (action : step collect cancelled collectors interval s input = some (s', events)) :
    WatchStep collect cancelled collectors interval s s' events := by
  cases input with
  | pass world =>
      simp only [step] at action
      split_ifs at action with forgets
      cases action
      refine .passed fun stopped => ?_
      simpa [stopped] using forgets
  | task now wake =>
      simp only [step, taskStep] at action
      split at action
      · rename_i place
        split_ifs at action with stopped
        · cases action
          exact .finished (.inl place) stopped
        · cases action
          exact .started now place (by simpa using stopped)
      · rename_i timestamp place
        split at action
        · rename_i cause failed
          cases action
          exact .panicked place failed
        · rename_i report world done
          cases action
          exact .collected place done
      · rename_i place
        split at action
        · split_ifs at action with stopped
          cases action
          exact .finished (.inr place) stopped
        · cases action
          exact .slept place
      · cases action
      · cases action

end Steps

def lineOf : Event → Option Line
  | .line l => some l
  | _ => none

def lines (trace : List Event) : List Line := trace.filterMap lineOf

def isSlept : Event → Bool
  | .slept _ => true
  | _ => false

def Pc.unprinted : Pc → Nat
  | .collecting _ | .panicked _ => 1
  | .head | .sleeping | .exited _ => 0

def isSummary : Event → Bool
  | .summary _ _ => true
  | _ => false

def Paced (trace : List Event) : Pc → Prop
  | .head | .collecting _ => trace.countP isSlept = (lines trace).length
  | .sleeping => trace.countP isSlept + 1 = (lines trace).length
  | .exited _ | .panicked _ =>
      trace.countP isSlept = (lines trace).length ∨ trace.countP isSlept + 1 = (lines trace).length

section Runs
variable {ω : Type} {collect : List CollectorConfig → ω → Except Panic (Report × ω)} {cancelled : ω → Bool}
  {collectors : List CollectorConfig} {interval : Duration}

structure Totals (interval : Duration) (good : Line → Prop) (trace : List Event) (s : State ω) : Prop where
  numbered : (lines trace).map (·.iteration) = List.range' 1 (lines trace).length
  counted : s.iteration = (lines trace).length + s.pc.unprinted
  successful : s.totalSuccessful = ((lines trace).map (·.report.successful)).sum
  failed : s.totalFailed = ((lines trace).map (·.report.failed)).sum
  lines : ∀ l ∈ lines trace, good l
  paced : Paced trace s.pc
  slept : ∀ d, .slept d ∈ trace → d = interval
  ended : (∃ code, s.pc = .exited code) ∧ (∃ before, trace = before ++ [.summary s.summary s.exitCode] ∧
      ∀ e ∈ before, isSummary e = false) ∨
    (∀ code, s.pc ≠ .exited code) ∧ ∀ e ∈ trace, isSummary e = false

theorem lines_append (trace events : List Event) : lines (trace ++ events) = lines trace ++ lines events :=
  List.filterMap_append

theorem lines_other (trace : List Event) {e : Event} (unlined : lineOf e = none) :
    lines (trace ++ [e]) = lines trace := by
  rw [lines_append, lines, lines, List.filterMap_cons_none unlined, List.filterMap_nil, List.append_nil]

theorem Totals.silent {good : Line → Prop} {trace : List Event} {s : State ω}
    (totals : Totals interval good trace s) (s' : State ω) (iteration : s'.iteration = s.iteration)
    (printed : s'.pc.unprinted = s.pc.unprinted)
    (successful : s'.totalSuccessful = s.totalSuccessful) (failed : s'.totalFailed = s.totalFailed)
    {e : Event} (unlined : lineOf e = none) (waits : ∀ d, e = .slept d → d = interval)
    (paced : Paced (trace ++ [e]) s'.pc)
    (ended : (∃ code, s'.pc = .exited code) ∧ e = .summary s'.summary s'.exitCode ∨
      (∀ code, s'.pc ≠ .exited code) ∧ isSummary e = false)
    (before : ∀ e ∈ trace, isSummary e = false) : Totals interval good (trace ++ [e]) s' := by
  have same := lines_other trace unlined
  refine ⟨?_, ?_, ?_, ?_, ?_, paced, ?_, ?_⟩
  · rw [same]
    exact totals.numbered
  · rw [same, iteration, printed]
    exact totals.counted
  · rw [same, successful]
    exact totals.successful
  · rw [same, failed]
    exact totals.failed
  · rw [same]
    exact totals.lines
  · intro d member
    rcases List.mem_append.mp member with old | new
    · exact totals.slept d old
    · exact waits d (List.mem_singleton.mp new).symm
  · rcases ended with ⟨place, rfl⟩ | ⟨place, quiet⟩
    · exact .inl ⟨place, trace, rfl, before⟩
    · refine .inr ⟨place, ?_⟩
      intro e' member
      rcases List.mem_append.mp member with old | new
      · exact before e' old
      · rw [List.mem_singleton.mp new, quiet]

theorem totals_step {good : Line → Prop} {trace events : List Event} {s s' : State ω}
    (reports : ∀ now world report world', collect collectors world = .ok (report, world') →
      good ⟨now, s.iteration, report, collectors.length⟩)
    (totals : Totals interval good trace s) (step : WatchStep collect cancelled collectors interval s s' events) :
    Totals interval good (trace ++ events) s' := by
  have unended (running : ∀ code, s.pc ≠ .exited code) : ∀ e ∈ trace, isSummary e = false := by
    rcases totals.ended with ⟨⟨code, place⟩, -⟩ | ⟨-, none⟩
    · exact absurd place (running code)
    · exact none
  cases step with
  | finished running stopped =>
      have paced : Paced (trace ++ [.summary s.summary s.exitCode]) (.exited s.exitCode) := by
        have before := totals.paced
        have same : lines (trace ++ [.summary s.summary s.exitCode]) = lines trace := lines_other trace rfl
        rw [Paced, same, List.countP_append]
        rcases running with place | place
        · rw [place] at before
          exact .inl before
        · rw [place] at before
          exact .inr before
      have printed : s.finish.1.pc.unprinted = s.pc.unprinted := by
        rcases running with place | place <;> rw [place] <;> rfl
      refine totals.silent s.finish.1 rfl printed rfl rfl rfl (fun _ same => by cases same) paced
        (.inl ⟨⟨_, rfl⟩, rfl⟩) (unended ?_)
      rcases running with place | place <;> simp [place]
  | started now place running =>
      rw [List.append_nil]
      have paced := totals.paced
      have counted := totals.counted
      rw [place] at paced counted
      exact ⟨totals.numbered, congrArg (· + 1) counted, totals.successful, totals.failed, totals.lines, paced,
        totals.slept, .inr ⟨by simp, unended (by simp [place])⟩⟩
  | panicked place failed =>
      rw [List.append_nil]
      have paced := totals.paced
      have counted := totals.counted
      rw [place] at paced counted
      exact ⟨totals.numbered, counted, totals.successful, totals.failed, totals.lines, .inl paced, totals.slept,
        .inr ⟨by simp, unended (by simp [place])⟩⟩
  | @collected timestamp report world place done =>
      have before := totals.paced
      have counted : s.iteration = (lines trace).length + 1 := by
        rw [totals.counted, place]
        rfl
      rw [place] at before
      have appended (l : Line) : lines (trace ++ [.line l]) = lines trace ++ [l] := lines_append trace [.line l]
      refine ⟨?_, ?_, ?_, ?_, ?_, ?_, ?_, ?_⟩
      · simp only [State.collected, appended, List.map_append, totals.numbered, List.length_append,
          List.length_singleton, List.range'_concat, counted]
        simp [Nat.add_comm]
      · simp only [State.collected, appended, List.length_append, counted]
        rfl
      · simp [State.collected, appended, totals.successful]
      · simp [State.collected, appended, totals.failed]
      · intro l member
        simp only [State.collected, appended] at member
        rcases List.mem_append.mp member with old | new
        · exact totals.lines l old
        · rw [List.mem_singleton.mp new]
          exact reports timestamp s.world _ _ done
      · simp only [State.collected, Paced, appended, List.countP_append, List.length_append]
        rw [before]
        rfl
      · intro d member
        rcases List.mem_append.mp member with old | new
        · exact totals.slept d old
        · cases List.mem_singleton.mp new
      · refine .inr ⟨by simp [State.collected], ?_⟩
        intro e member
        rcases List.mem_append.mp member with old | new
        · exact unended (by simp [place]) e old
        · rw [List.mem_singleton.mp new]
          rfl
  | slept place =>
      have before := totals.paced
      rw [place] at before
      have paced : Paced (trace ++ [.slept interval]) .head := by
        have same : lines (trace ++ [.slept interval]) = lines trace := lines_other trace rfl
        rw [Paced, same, List.countP_append]
        exact before
      have printed : Pc.head.unprinted = s.pc.unprinted := by
        rw [place]
        rfl
      exact totals.silent { s with pc := .head } rfl printed rfl rfl rfl
        (fun d same => (Event.slept.inj same).symm) paced (.inr ⟨by simp, rfl⟩) (unended (by simp [place]))
  | passed kept =>
      rw [List.append_nil]
      exact ⟨totals.numbered, totals.counted, totals.successful, totals.failed, totals.lines, totals.paced,
        totals.slept, totals.ended⟩

theorem totals_run {good : Line → Prop} (reports : ∀ now i world report world',
      collect collectors world = .ok (report, world') → good ⟨now, i, report, collectors.length⟩)
    {world : ω} {trace : List Event} {s : State ω}
    (run : (machine collect cancelled collectors interval).Run { world } trace s) : Totals interval good trace s := by
  refine run.invariant (P := Totals interval good) ?_ ?_
  · exact ⟨rfl, rfl, rfl, rfl, by simp [lines], rfl, by simp, .inr ⟨by simp, by simp⟩⟩
  · intro trace s input s' events _ totals action
    exact totals_step (fun now => reports now _) totals (step_cases action)

theorem totals_summary {good : Line → Prop} {before after : List Event} {summary : Summary} {code : Nat} {s : State ω}
    (totals : Totals interval good (before ++ .summary summary code :: after) s) :
    after = [] ∧ summary = s.summary ∧ code = s.exitCode := by
  have member : .summary summary code ∈ before ++ .summary summary code :: after := by simp
  rcases totals.ended with ⟨-, first, split, quiet⟩ | ⟨-, none⟩
  · rcases append_one_eq_append_cons split.symm with ⟨rfl, same, rfl⟩ | ⟨rest, rfl, rfl⟩
    · cases same
      exact ⟨rfl, rfl, rfl⟩
    · have other := quiet (.summary summary code) (by simp)
      cases other
  · have other := none _ member
    cases other

theorem stopped_run {s s' : State ω} (stopped : cancelled s.world = true)
    (outside : ∀ timestamp, s.pc ≠ .collecting timestamp) {later : List Event}
    (run : (machine collect cancelled collectors interval).Run s later s') : lines later = [] := by
  have kept : lines later = [] ∧ cancelled s'.world = true ∧ ∀ timestamp, s'.pc ≠ .collecting timestamp := by
    refine run.invariant (P := fun later s' => lines later = [] ∧ cancelled s'.world = true ∧
      ∀ timestamp, s'.pc ≠ .collecting timestamp) ⟨rfl, stopped, outside⟩ ?_
    rintro trace s₁ input s₂ events - ⟨unlined, here, apart⟩ action
    rw [lines_append, unlined, List.nil_append]
    cases step_cases action with
    | finished => exact ⟨rfl, here, by simp [State.finish]⟩
    | started now place running =>
        rw [here] at running
        cases running
    | panicked place => exact absurd place (apart _)
    | collected place => exact absurd place (apart _)
    | slept => exact ⟨rfl, here, by simp⟩
    | passed keeps => exact ⟨rfl, keeps here, apart⟩
  exact kept.1

theorem stopping_run (keeps : ∀ world report world', collect collectors world = .ok (report, world') →
      cancelled world = true → cancelled world' = true)
    {s s' : State ω} (stopped : cancelled s.world = true) {later : List Event}
    (run : (machine collect cancelled collectors interval).Run s later s') : (lines later).length ≤ 1 := by
  have kept : cancelled s'.world = true ∧ (lines later).length + s'.pc.unprinted ≤ s.pc.unprinted := by
    refine run.invariant (P := fun later s' => cancelled s'.world = true ∧
      (lines later).length + s'.pc.unprinted ≤ s.pc.unprinted) ⟨stopped, by simp [lines]⟩ ?_
    rintro trace s₁ input s₂ events - ⟨here, bound⟩ action
    rw [lines_append, List.length_append]
    cases step_cases action with
    | finished running =>
        refine ⟨here, ?_⟩
        rcases running with place | place <;> rw [place] at bound <;> exact bound
    | started now place running =>
        rw [here] at running
        cases running
    | panicked place =>
        rw [place] at bound
        exact ⟨here, bound⟩
    | collected place done =>
        rw [place] at bound
        exact ⟨keeps _ _ _ done here, bound⟩
    | slept place =>
        rw [place] at bound
        exact ⟨here, bound⟩
    | passed forgets => exact ⟨forgets here, bound⟩
  have begun : s.pc.unprinted ≤ 1 := by
    cases s.pc <;> simp [Pc.unprinted]
  exact (Nat.le_of_add_right_le kept.2).trans begun

end Runs

theorem sum_pos_iff {l : List Nat} : 0 < l.sum ↔ ∃ n ∈ l, 0 < n := by
  induction l with
  | nil => simp
  | cons n l ih =>
      rw [List.sum_cons, Nat.add_pos_iff_pos_or_pos, ih]
      simp

theorem failed_iff {report : Report} {asked : List (CollectorConfig × MetricConfig)}
    (accounts : Accounts report asked) :
    0 < report.failed ↔ ∃ e ∈ report.collectors, ∃ m ∈ e.metrics, m.error.isSome = true := by
  rw [accounts.failed, List.countP_pos_iff]
  constructor
  · rintro ⟨m, member, failed⟩
    obtain ⟨e, inside, member⟩ := List.mem_flatMap.mp member
    exact ⟨e, inside, m, member, failed⟩
  · rintro ⟨e, inside, m, member, failed⟩
    exact ⟨m, List.mem_flatMap.mpr ⟨e, inside, member⟩, failed⟩

section Watches
variable {ρ ω : Type} (factory : MetricReaderFactory ρ ω) (cancelled : ω → Bool)

/-- Over any readers and whatever becomes of them, the lines of a watch are numbered one after the other, each
accounts for every pair that its filters ask for, and one wait of the shortest interval follows each; the summary
comes last, adds up all lines, and its exit code says whether any metric in them failed. A token that is cancelled
between two collections ends the lines, and one that is cancelled during a collection lets only its line out. -/
theorem watch_accounts {compile : String → Result (String → Bool)} {parse : String → Except String Duration}
    {config : Config} {collector metric interval : Option String} {collectorRe metricRe : Option (String → Bool)}
    {collectors : List CollectorConfig} {loop : Duration}
    (compiled : compileFilter compile "collector" collector = .ok collectorRe)
    (compiled' : compileFilter compile "metric" metric = .ok metricRe)
    (prepared : watchCommand compile parse config collector metric interval = .ok (collectors, loop))
    {world : ω} {trace : List Event} {s : State ω}
    (run : (machine (factory.collectOnce cancelled) cancelled collectors loop).Run { world } trace s) :
    (lines trace).map (·.iteration) = List.range' 1 (lines trace).length ∧
      (∀ l ∈ lines trace, Accounts l.report (pairs collectorRe metricRe config.collectors) ∧
        l.totalCollectors = collectors.length) ∧
      (∀ d, .slept d ∈ trace → (∃ c ∈ collectors, d = c.pollingInterval) ∧ ∀ c ∈ collectors, d ≤ c.pollingInterval) ∧
      (trace.countP isSlept = (lines trace).length ∨ trace.countP isSlept + 1 = (lines trace).length) ∧
      (∀ before summary code after, trace = before ++ .summary summary code :: after →
        after = [] ∧ summary = ⟨(lines before).length, ((lines before).map (·.report.successful)).sum,
          ((lines before).map (·.report.failed)).sum⟩ ∧ (code = 0 ∨ code = 2) ∧
        (code = 2 ↔ ∃ l ∈ lines before, ∃ e ∈ l.report.collectors, ∃ m ∈ e.metrics, m.error.isSome = true)) ∧
      (cancelled s.world = true → (∀ timestamp, s.pc ≠ .collecting timestamp) → ∀ later s',
        (machine (factory.collectOnce cancelled) cancelled collectors loop).Run s later s' → lines later = []) ∧
      ((∀ world report world', factory.collectOnce cancelled collectors world = .ok (report, world') →
          cancelled world = true → cancelled world' = true) → cancelled s.world = true → ∀ later s',
        (machine (factory.collectOnce cancelled) cancelled collectors loop).Run s later s' →
          (lines later).length ≤ 1) := by
  obtain ⟨override, -, rfl, nonempty, rfl⟩ := watchCommand_cases compiled compiled' prepared
  have reports : ∀ (now : SystemTime) (i : Nat) world report world', factory.collectOnce cancelled
        ((selected collectorRe metricRe config.collectors).map (overridden override)) world = .ok (report, world') →
      Accounts report (pairs collectorRe metricRe config.collectors) := by
    intro now i world report world' done
    rw [← selected_overridden] at done
    rcases collectOnce_cases factory cancelled _ world with ⟨p, failed, -⟩ | ⟨entries, w', collected, pulled⟩
    · rw [failed] at done
      cases done
    · rw [collected] at done
      cases done
      exact accounts_overridden override pulled.accounts
  generalize (selected collectorRe metricRe config.collectors).map (overridden override) = collectors at *
  have totals : Totals (loopInterval collectors) (fun l => Accounts l.report
      (pairs collectorRe metricRe config.collectors) ∧ l.totalCollectors = collectors.length) trace s :=
    totals_run (fun now i world report world' done => ⟨reports now i world report world' done, rfl⟩) run
  refine ⟨totals.numbered, totals.lines, ?_, ?_, ?_, fun stopped outside later s' => stopped_run stopped outside,
    fun keeps stopped later s' => stopping_run keeps stopped⟩
  · intro d member
    rw [totals.slept d member]
    exact loopInterval_min nonempty
  · have paced := totals.paced
    cases place : s.pc <;> rw [place] at paced
    · exact .inl paced
    · exact .inl paced
    · exact .inr paced
    · exact paced
    · exact paced
  · rintro before summary code after rfl
    obtain ⟨rfl, rfl, rfl⟩ := totals_summary totals
    have same : lines (before ++ [.summary s.summary s.exitCode]) = lines before := lines_other before rfl
    have ended : s.pc.unprinted = 0 := by
      rcases totals.ended with ⟨⟨code, place⟩, -⟩ | ⟨-, none⟩
      · rw [place]
        rfl
      · cases none (.summary s.summary s.exitCode) (by simp)
    have counted := totals.counted
    have successful := totals.successful
    have failed := totals.failed
    rw [same] at counted successful failed
    refine ⟨rfl, ?_, ?_, ?_⟩
    · rw [State.summary, counted, ended, successful, failed, Nat.add_zero]
    · unfold State.exitCode
      split_ifs <;> simp
    · have code : s.exitCode = 2 ↔ 0 < s.totalFailed := by
        unfold State.exitCode
        split_ifs with failing <;> simp [failing]
      rw [code, failed, sum_pos_iff]
      constructor
      · rintro ⟨n, member, positive⟩
        obtain ⟨l, inside, rfl⟩ := List.mem_map.mp member
        exact ⟨l, inside, (failed_iff (totals.lines l (same ▸ inside)).1).mp positive⟩
      · rintro ⟨l, inside, entry⟩
        exact ⟨_, List.mem_map_of_mem inside, (failed_iff (totals.lines l (same ▸ inside)).1).mpr entry⟩

end Watches

def gateFactory : MetricReaderFactory Unit Bool where
  create c w := if c.name = "tank" then .ok (.error ⟨"no such device", []⟩, w) else .ok (.ok (), w)
  reader :=
    { setMetrics := fun _ s => s
      connect := fun s => (.ok (), s)
      disconnect := fun s => (.ok (), s)
      isConnected := fun _ => true
      read := fun _ s => .ok (⟨AList.singleton "level" (.ok (1, 1)), 1⟩, s) }

def gateCollectors : List CollectorConfig :=
  [{ name := "boiler", protocol := .modbusTcp "127.0.0.1:502", metrics := [benchMetric "level"],
     pollingInterval := Duration.fromSecs 5 },
   { name := "tank", protocol := .modbusTcp "127.0.0.1:502", metrics := [benchMetric "level"],
     pollingInterval := Duration.fromSecs 5 }]

/-- The token is cancelled once the first collection is under way: its line is still printed. -/
theorem watch_accounts_gate :
    ∃ l s, (machine (gateFactory.collectOnce id) id gateCollectors (Duration.fromSecs 5)).exec { world := false }
        [.task 0 .slept, .pass true, .task 0 .slept, .task 0 .slept, .task 0 .slept] =
          some ([.line l, .slept (Duration.fromSecs 5), .summary ⟨1, 1, 1⟩ 2], s) ∧
      l.iteration = 1 ∧ ∃ e ∈ l.report.collectors, ∃ m ∈ e.metrics, m.error.isSome = true := by
  have executed : ∃ l s, (machine (gateFactory.collectOnce id) id gateCollectors (Duration.fromSecs 5)).exec
      { world := false } [.task 0 .slept, .pass true, .task 0 .slept, .task 0 .slept, .task 0 .slept] =
        some ([.line l, .slept (Duration.fromSecs 5)] ++ .summary ⟨1, 1, 1⟩ 2 :: [], s) := ⟨_, _, rfl⟩
  obtain ⟨l, s, executed⟩ := executed
  have compiled : compileFilter sameName "collector" none = .ok none := rfl
  have compiled' : compileFilter sameName "metric" (some "level") = .ok (some (· = "level")) := rfl
  have prepared : watchCommand sameName (fun _ => .ok (Duration.fromSecs 5)) benchConfig none (some "level")
      (some "5s") = .ok (gateCollectors, Duration.fromSecs 5) := rfl
  obtain ⟨numbered, -, -, -, ended, -⟩ := watch_accounts gateFactory id compiled compiled' prepared
    (Machine.exec_run executed)
  obtain ⟨-, -, -, failed⟩ := ended _ _ _ _ rfl
  obtain ⟨l', member, entry⟩ := failed.mp rfl
  cases List.mem_singleton.mp member
  exact ⟨l, s, executed, (List.cons.inj numbered).1, entry⟩

end BusExporter.Watch
