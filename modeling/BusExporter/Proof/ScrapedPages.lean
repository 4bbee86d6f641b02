import BusExporter.Proof.DaemonRuns
import BusExporter.Proof.Rendering

/-! What a scrape answers with: a page that shows of every collector what it had published at one moment of the
scrape, and counters that only grow. -/

namespace BusExporter.Daemon
open Lib Config

variable {n : Nat} {σ : Fin n → Type} {config : Config} {t : ∀ i, Collector.Task (σ i)} {worlds : ∀ i, σ i}
  {startTime : Internal.Instant} {trace : List (Event σ)} {s s' : System σ} {input : Input n}
  {events : List (Event σ)}

def published (i : Fin n) : Event σ → Option (List MetricValue)
  | .collector j (.publish snapshot) => if j = i then some snapshot else none
  | _ => none

def latest (i : Fin n) (trace : List (Event σ)) : Option (List MetricValue) :=
  (trace.filterMap (published i)).getLast?

theorem latest_published (i j : Fin n) (trace : List (Event σ)) (snapshot : List MetricValue) :
    latest i (trace ++ [.collector j (.publish snapshot)]) = if j = i then some snapshot else latest i trace := by
  by_cases same : j = i <;> simp [latest, published, same]

theorem latest_other (i : Fin n) (trace : List (Event σ)) {e : Event σ} (other : published i e = none) :
    latest i (trace ++ [e]) = latest i trace := by
  simp [latest, other]

theorem lastValue_ofStore (distinct : Function.Injective fun i => (t i).collector.name) (i : Fin n)
    (trace : List (Event σ)) :
    SharedMap.lastValue (t i).collector.name (trace.filterMap (ofStore t)) = latest i trace := by
  induction trace using List.reverseRecOn with
  | nil => rfl
  | append_singleton trace e ih =>
      have unchanged (other : published i e = none)
          (kept : ∀ u, ofStore t e ≠ some (.updated u)) :
          SharedMap.lastValue (t i).collector.name ((trace ++ [e]).filterMap (ofStore t)) =
            latest i (trace ++ [e]) := by
        rw [latest_other i trace other, ← ih, List.filterMap_append]
        cases seen : ofStore t e with
        | none => simp [seen]
        | some own =>
            rw [List.filterMap_cons_some seen, List.filterMap_nil]
            apply SharedMap.lastValue_other
            intro u same
            exact kept u (by rw [seen, same])
      cases e with
      | collector j own =>
          cases own with
          | publish snapshot =>
              have shown : ofStore t (.collector j (.publish snapshot)) =
                  some (.updated (.insert (t j).collector.name snapshot)) := rfl
              rw [latest_published, ← ih, List.filterMap_append, List.filterMap_cons_some shown, List.filterMap_nil,
                SharedMap.lastValue_updated]
              by_cases same : j = i
              · subst same
                simp [Update.key, Update.value]
              · have different : (t j).collector.name ≠ (t i).collector.name := fun equal => same (distinct equal)
                rw [if_neg same, Update.key, if_neg different]
          | _ => exact unchanged rfl fun _ same => by cases same
      | _ => exact unchanged rfl fun _ same => by cases same

structure Served (trace : List (Event σ)) (s : System σ) : Prop where
  accepted : ∀ id handler, s.handlers.lookup id = some handler → .accepted id ∈ trace
  walked : ∀ id store, s.handlers.lookup id = some (.walked store) →
    ∃ parts, .walked (.scrape id) parts ∈ trace ∧ store = parts.toAList

theorem Served.kept (served : Served trace s) (same : s'.handlers = s.handlers) (events : List (Event σ)) :
    Served (trace ++ events) s' := by
  constructor
  · intro id handler held
    rw [same] at held
    exact List.mem_append_left _ (served.accepted id handler held)
  · intro id store held
    rw [same] at held
    obtain ⟨parts, member, equal⟩ := served.walked id store held
    exact ⟨parts, List.mem_append_left _ member, equal⟩

theorem served_step (served : Served trace s) (step : Step config t s input s' events) :
    Served (trace ++ events) s' := by
  have old : Served (trace ++ events) s := served.kept rfl events
  cases step
  case accepted place =>
      constructor
      · intro id handler held
        rcases HashMap.lookup_insert_cases held with ⟨rfl, -⟩ | ⟨-, before⟩
        · exact List.mem_append_right _ (List.mem_singleton.mpr rfl)
        · exact old.accepted id handler before
      · intro id store held
        rcases HashMap.lookup_insert_cases held with ⟨-, same⟩ | ⟨-, before⟩
        · cases same
        · exact old.walked id store before
  case counted id stats now place =>
      constructor
      · intro id' handler held
        rcases HashMap.lookup_insert_cases held with ⟨rfl, -⟩ | ⟨-, before⟩
        · exact old.accepted _ _ place
        · exact old.accepted id' handler before
      · intro id' store held
        rcases HashMap.lookup_insert_cases held with ⟨-, same⟩ | ⟨-, before⟩
        · cases same
        · exact old.walked id' store before
  case scraped id stats now w place walking done =>
      constructor
      · intro id' handler held
        rcases HashMap.lookup_insert_cases held with ⟨rfl, -⟩ | ⟨-, before⟩
        · exact old.accepted _ _ place
        · exact old.accepted id' handler before
      · intro id' store held
        rcases HashMap.lookup_insert_cases held with ⟨rfl, same⟩ | ⟨-, before⟩
        · cases same
          exact ⟨w.collected, List.mem_append_right _ (List.mem_singleton.mpr rfl), rfl⟩
        · exact old.walked id' store before
  case responded id stats now store place =>
      constructor
      · intro id' handler held
        exact old.accepted id' handler (HashMap.lookup_erase_cases held).2
      · intro id' store' held
        exact old.walked id' store' (HashMap.lookup_erase_cases held).2
  all_goals exact served.kept (by rfl) _

theorem served_run (run : (machine config t).Run (spawned config t worlds startTime) trace s) : Served trace s := by
  have begins : Served [] (spawned config t worlds startTime) := by
    constructor <;> intro id handler held <;> cases held
  exact run.invariant begins fun _ served action => served_step served (step_cases action)

theorem responded_cases {first last : List (Event σ)} {id : Nat} {page : Page}
    (step : Step config t s input s' (first ++ .response id page :: last)) :
    s.handlers.lookup id = some (.walked page.store) ∧ page.internal = s.internal ∧ first = [] ∧ last = [] := by
  generalize whole : first ++ .response id page :: last = events at step
  have member : .response id page ∈ events := by simp [← whole]
  cases step
  case responded id' stats now store place =>
      cases List.mem_singleton.mp member
      obtain ⟨rfl, rfl⟩ : first = [] ∧ last = [] := by simpa [List.append_eq_singleton_iff] using whole
      exact ⟨place, rfl, rfl, rfl⟩
  all_goals simp at member

theorem asked_cases {first last : List (Event σ)} {id : Nat}
    (step : Step config t s input s' (first ++ .walkStarted (.scrape id) :: last)) :
    s.handlers.lookup id = some .counted ∧ first = [] := by
  generalize whole : first ++ .walkStarted (.scrape id) :: last = events at step
  have member : .walkStarted (.scrape id) ∈ events := by simp [← whole]
  cases step
  case walkStarted walker idle asked =>
      cases List.mem_singleton.mp member
      exact ⟨asked, by cases first <;> simp at whole ⊢⟩
  all_goals simp at member

theorem ofStore_started {e : Event σ} {walker : Walker} (seen : ofStore t e = some (.started walker)) :
    e = .walkStarted walker := by
  cases e with
  | collector i own => cases own <;> cases seen
  | walkStarted other =>
      cases seen
      rfl
  | _ => cases seen

theorem ofStore_inserted {e : Event σ} {name : String} {snapshot : List MetricValue}
    (seen : ofStore t e = some (.updated (.insert name snapshot))) :
    ∃ i, (t i).collector.name = name ∧ e = .collector i (.publish snapshot) := by
  cases e with
  | collector i own =>
      cases own <;> cases seen
      exact ⟨i, rfl, rfl⟩
  | _ => cases seen

theorem walked_latest (distinct : Function.Injective fun i => (t i).collector.name)
    {walk later : List (Event σ)} {walker : Walker} {parts : List (Σ _ : String, List MetricValue)}
    (run : (machine config t).Run (spawned config t worlds startTime) (walk ++ .walked walker parts :: later) s) :
    ∃ earlier during, walk = earlier ++ .walkStarted walker :: during ∧
      ∀ i, ∃ sofar rest, during = sofar ++ rest ∧
        parts.dlookup (t i).collector.name = latest i (earlier ++ sofar) := by
  have shown : ofStore t (.walked walker parts) = some (.walked walker parts) := rfl
  have shared := store_run run
  rw [List.filterMap_append, List.filterMap_cons_some shown] at shared
  obtain ⟨_, _, split, -, moments⟩ := SharedMap.walked_moment shared
  obtain ⟨earlier, rest, rfl, rfl, beginning⟩ := List.filterMap_eq_append_iff.mp split
  obtain ⟨quiet, e, during, rfl, silent, start, rfl⟩ := List.filterMap_eq_cons_iff.mp beginning
  obtain rfl := ofStore_started start
  refine ⟨earlier ++ quiet, during, (List.append_assoc _ _ _).symm, fun i => ?_⟩
  obtain ⟨_, _, parted, got⟩ := moments (t i).collector.name
  obtain ⟨sofar, rest, rfl, rfl, -⟩ := List.filterMap_eq_append_iff.mp parted
  refine ⟨sofar, rest, rfl, got.trans ?_⟩
  have nothing : quiet.filterMap (ofStore t) = [] := List.filterMap_eq_nil_iff.mpr silent
  have whole : earlier.filterMap (ofStore t) ++ .started walker :: sofar.filterMap (ofStore t) =
      (earlier ++ (quiet ++ .walkStarted walker :: sofar)).filterMap (ofStore t) := by
    rw [List.filterMap_append, List.filterMap_append, nothing, List.nil_append, List.filterMap_cons_some start]
  rw [whole, lastValue_ofStore distinct]
  simp [latest, published]

/-- The body is a text that reads back as the families of the page's store, and after it the exporter's own metrics. -/
theorem body_reads (page : Page) :
    ∃ text, page.body = text ++ ("\n" ++ page.internal.renderPrometheus page.stats page.now) ∧
      Exposition.parse text.toList = some ((Prometheus.families [] page.store).flatMap Exposition.Family.lines) :=
  ⟨Prometheus.renderMetrics [] page.store, rfl, Prometheus.parse_families [] page.store⟩

/-- A scrape answers with a page of which every entry is the last snapshot of its collector at one moment of the
walk, and the walk begins after the scrape was accepted. -/
theorem scraped_page (valid : config.validate = .ok ()) (spawns : Spawns config t) {before after : List (Event σ)}
    {id : Nat} {page : Page}
    (run : (machine config t).Run (spawned config t worlds startTime) (before ++ .response id page :: after) s) :
    ∃ earlier during later parts,
      before = earlier ++ .walkStarted (.scrape id) :: (during ++ .walked (.scrape id) parts :: later) ∧
      .accepted id ∈ earlier ∧ page.store = parts.toAList ∧
      (∀ name ∈ page.store, ∃ i, (t i).collector.name = name) ∧
      (∃ text, page.body = text ++ ("\n" ++ page.internal.renderPrometheus page.stats page.now) ∧
        Exposition.parse text.toList = some ((Prometheus.families [] page.store).flatMap Exposition.Family.lines)) ∧
      ∀ i, ∃ sofar rest, during = sofar ++ rest ∧
        page.store.lookup (t i).collector.name = latest i (earlier ++ sofar) := by
  obtain ⟨_, state, input, state', first, last, previous, action, rfl⟩ := run.emitted rfl
  obtain ⟨place, -, rfl, -⟩ := responded_cases (step_cases action)
  obtain ⟨parts, member, filled⟩ := (served_run previous).walked id page.store place
  obtain ⟨walk, later, rfl⟩ := List.append_of_mem member
  obtain ⟨earlier, during, rfl, moments⟩ := walked_latest (spawns.distinct valid) previous
  have shown (name : String) : page.store.lookup name = parts.dlookup name := by
    rw [filled, AList.lookup_to_alist]
  refine ⟨earlier, during, later, parts, by simp, ?_, filled, ?_, body_reads page, ?_⟩
  · rw [List.append_assoc, List.cons_append] at previous
    obtain ⟨_, _, _, _, _, _, begun, asks, rfl⟩ := previous.emitted rfl
    obtain ⟨counted, rfl⟩ := asked_cases (step_cases asks)
    rw [List.append_nil]
    exact (served_run begun).accepted id .counted counted
  · intro name present
    obtain ⟨snapshot, held⟩ := Option.isSome_iff_exists.mp (AList.lookup_isSome.mpr present)
    rw [shown] at held
    have whole := store_run previous
    have seen : ofStore t (.walked (.scrape id) parts) = some (.walked (.scrape id) parts) := rfl
    rw [List.filterMap_append, List.filterMap_cons_some seen] at whole
    obtain ⟨-, inserted⟩ := SharedMap.walked_inserted whole rfl
    obtain ⟨e, -, update⟩ := List.mem_filterMap.mp (inserted ⟨name, snapshot⟩ (List.of_mem_dlookup held))
    obtain ⟨i, same, -⟩ := ofStore_inserted update
    exact ⟨i, same⟩
  · intro i
    obtain ⟨sofar, rest, split, got⟩ := moments i
    exact ⟨sofar, rest, split, (shown _).trans got⟩

structure Ahead (im im' : Internal.InternalMetrics) : Prop where
  startTime : im'.startTime = im.startTime
  collectorsTotal : im'.collectorsTotal = im.collectorsTotal
  collectorStats : ∀ name, Collector.Grows (im.collectorStats.statsOf name) (im'.collectorStats.statsOf name)
  otlpExportsTotal : im.otlpExportsTotal ≤ im'.otlpExportsTotal
  otlpErrorsTotal : im'.otlpErrorsTotal = im.otlpErrorsTotal
  prometheusScrapesTotal : im.prometheusScrapesTotal ≤ im'.prometheusScrapesTotal

theorem Ahead.refl (im : Internal.InternalMetrics) : Ahead im im :=
  ⟨rfl, rfl, fun _ => .refl _, Nat.le_refl _, rfl, Nat.le_refl _⟩

theorem Ahead.trans {a b c : Internal.InternalMetrics} (first : Ahead a b) (second : Ahead b c) : Ahead a c where
  startTime := second.startTime.trans first.startTime
  collectorsTotal := second.collectorsTotal.trans first.collectorsTotal
  collectorStats := fun name => (first.collectorStats name).trans (second.collectorStats name)
  otlpExportsTotal := first.otlpExportsTotal.trans second.otlpExportsTotal
  otlpErrorsTotal := second.otlpErrorsTotal.trans first.otlpErrorsTotal
  prometheusScrapesTotal := first.prometheusScrapesTotal.trans second.prometheusScrapesTotal

theorem ahead_moved {i : Fin n} {env : Collector.Env} {next : Collector.State (σ i)}
    {own : List (Collector.Event (σ i))}
    (action : Collector.taskStep (t i) env (s.view i) = some (next, own)) :
    Ahead s.internal (s.moved i next).internal := by
  have stats (name : String) : Collector.Grows (s.internal.collectorStats.statsOf name)
      ((next.internal.getD s.internal.collectorStats).statsOf name) := by
    cases Collector.shares_step (t i) (Collector.taskStep_cases (t i) action) with
    | nothing store internal quiet =>
        rw [internal]
        exact .refl _
    | publishes snapshot store internal event =>
        rw [internal]
        exact .refl _
    | counts f grows store internal quiet =>
        rw [internal, System.view, Option.map_some, Option.getD_some, Collector.updateCollector_eq]
        by_cases same : name = (t i).collector.name
        · subst same
          rw [InternalMetrics.statsOf, InternalMetrics.statsOf, AList.lookup_insert, Option.getD_some]
          exact grows _
        · rw [InternalMetrics.statsOf, InternalMetrics.statsOf, AList.lookup_insert_ne same]
          exact .refl _
  exact ⟨rfl, rfl, stats, Nat.le_refl _, rfl, Nat.le_refl _⟩

theorem ahead_exported {otlp : OtlpExporterConfig} {env : Otlp.Env} {own next : Otlp.State}
    {shown : List Otlp.Event}
    (action : Otlp.taskStep otlp env { own with internalMetrics := some s.internal } = some (next, shown)) :
    Ahead s.internal (s.exported next).internal ∧
      (s.exported next).internal.prometheusScrapesTotal = s.internal.prometheusScrapesTotal := by
  rcases Otlp.taskStep_counts action with same | more
  · rw [System.exported, same, Option.getD_some]
    exact ⟨.refl _, rfl⟩
  · rw [System.exported, more, Option.map_some, Option.getD_some]
    exact ⟨⟨rfl, rfl, fun _ => .refl _, Nat.le_succ _, rfl, Nat.le_refl _⟩, rfl⟩

theorem ahead_step (step : Step config t s input s' events) : Ahead s.internal s'.internal := by
  cases step
  case collector i env next own action => exact ahead_moved action
  case counted => exact ⟨rfl, rfl, fun _ => .refl _, Nat.le_refl _, rfl, Nat.le_succ _⟩
  case otlp action => exact (ahead_exported action).1
  case otlpWalked action => exact (ahead_exported action).1
  all_goals exact .refl _

theorem ahead_run (run : (machine config t).Run s trace s') : Ahead s.internal s'.internal :=
  run.invariant (P := fun _ s' => Ahead s.internal s'.internal) (.refl _) fun _ ahead action =>
    ahead.trans (ahead_step (step_cases action))

def isAccepted : Event σ → Bool
  | .accepted _ => true
  | _ => false

def isResponse : Event σ → Bool
  | .response _ _ => true
  | _ => false

def uncounted : (Σ _ : Nat, Handler) → Bool
  | ⟨_, .entered⟩ => true
  | _ => false

structure Tallies (trace : List (Event σ)) (s : System σ) : Prop where
  known : ∀ id handler, s.handlers.lookup id = some handler → id < s.accepted
  accepted : trace.countP isAccepted = s.accepted
  answered : trace.countP isResponse + s.handlers.entries.length = s.accepted
  counted : s.internal.prometheusScrapesTotal + s.handlers.entries.countP uncounted = s.accepted

theorem Tallies.kept (tallies : Tallies trace s) (handlers : s'.handlers = s.handlers)
    (accepted : s'.accepted = s.accepted)
    (scrapes : s'.internal.prometheusScrapesTotal = s.internal.prometheusScrapesTotal)
    (silent : events.countP isAccepted = 0 ∧ events.countP isResponse = 0) : Tallies (trace ++ events) s' where
  known := by
    rw [handlers, accepted]
    exact tallies.known
  accepted := by rw [List.countP_append, silent.1, accepted, Nat.add_zero, tallies.accepted]
  answered := by rw [List.countP_append, silent.2, accepted, handlers, Nat.add_zero, tallies.answered]
  counted := by rw [handlers, accepted, scrapes, tallies.counted]

theorem Tallies.absent (tallies : Tallies trace s) : s.handlers.lookup s.accepted = none := by
  cases held : s.handlers.lookup s.accepted with
  | none => rfl
  | some handler => exact absurd (tallies.known _ _ held) (Nat.lt_irrefl _)

theorem Tallies.advance (tallies : Tallies trace s) {id : Nat} {handler next : Handler}
    (place : s.handlers.lookup id = some handler) (handlers : s'.handlers = s.handlers.insert id next)
    (accepted : s'.accepted = s.accepted)
    (scrapes : s'.internal.prometheusScrapesTotal + (if uncounted ⟨id, next⟩ then 1 else 0) =
      s.internal.prometheusScrapesTotal + if uncounted ⟨id, handler⟩ then 1 else 0)
    (silent : events.countP isAccepted = 0 ∧ events.countP isResponse = 0) : Tallies (trace ++ events) s' where
  known := by
    rw [handlers, accepted]
    intro id' handler' held
    rcases HashMap.lookup_insert_cases held with ⟨rfl, -⟩ | ⟨-, before⟩
    · exact tallies.known _ _ place
    · exact tallies.known _ _ before
  accepted := by rw [List.countP_append, silent.1, accepted, Nat.add_zero, tallies.accepted]
  answered := by
    have length := HashMap.countP_insert_again (fun _ => true) place next
    simp only [List.countP_true, if_true, Nat.add_right_cancel_iff] at length
    rw [List.countP_append, silent.2, accepted, handlers, Nat.add_zero, length, tallies.answered]
  counted := by
    have entered := HashMap.countP_insert_again uncounted place next
    have before := tallies.counted
    rw [handlers, accepted]
    omega

theorem tallies_step (tallies : Tallies trace s) (step : Step config t s input s' events) :
    Tallies (trace ++ events) s' := by
  cases step
  case accepted place =>
      constructor
      · intro id handler held
        rcases HashMap.lookup_insert_cases held with ⟨rfl, -⟩ | ⟨-, before⟩
        · exact Nat.lt_succ_self _
        · exact Nat.lt_succ_of_lt (tallies.known id handler before)
      · rw [List.countP_append, tallies.accepted]
        rfl
      · have length := HashMap.countP_insert_new (fun _ => true) tallies.absent .entered
        simp only [List.countP_true, if_true] at length
        rw [List.countP_append, length, ← tallies.answered]
        rfl
      · have entered := HashMap.countP_insert_new uncounted tallies.absent .entered
        rw [entered, ← tallies.counted]
        rfl
  case counted id stats now place => exact tallies.advance place rfl rfl rfl ⟨rfl, rfl⟩
  case scraped id stats now w place walking done => exact tallies.advance place rfl rfl rfl ⟨rfl, rfl⟩
  case responded id stats now store place =>
      constructor
      · intro id' handler held
        exact tallies.known id' handler (HashMap.lookup_erase_cases held).2
      · rw [List.countP_append, tallies.accepted]
        rfl
      · have length := HashMap.countP_erase (fun _ => true) place
        simp only [List.countP_true, if_true] at length
        rw [List.countP_append, Nat.add_assoc, ← tallies.answered, ← length]
        exact congrArg (trace.countP isResponse + ·) (Nat.add_comm 1 _)
      · have entered := HashMap.countP_erase uncounted place
        rw [← tallies.counted, ← entered]
        rfl
  case collector i env next own action =>
      exact tallies.kept rfl rfl rfl (by simp [List.countP_map, List.countP_eq_zero, isAccepted, isResponse])
  case otlp action =>
      exact tallies.kept rfl rfl (ahead_exported action).2 (by simp [List.countP_eq_zero, isAccepted, isResponse])
  case otlpWalked action =>
      exact tallies.kept rfl rfl (ahead_exported action).2 (by simp [List.countP_eq_zero, isAccepted, isResponse])
  case mqtt | mqttWalked =>
      exact tallies.kept rfl rfl rfl (by simp [List.countP_eq_zero, isAccepted, isResponse])
  all_goals exact tallies.kept rfl rfl rfl ⟨rfl, rfl⟩

theorem tallies_run (run : (machine config t).Run (spawned config t worlds startTime) trace s) : Tallies trace s := by
  have begins : Tallies [] (spawned config t worlds startTime) := by
    refine ⟨?_, rfl, rfl, rfl⟩
    intro id handler held
    cases held
  exact run.invariant begins fun _ tallies action => tallies_step tallies (step_cases action)

theorem response_ahead {before between after : List (Event σ)} {id id' : Nat} {page page' : Page}
    (run : (machine config t).Run s (before ++ .response id page :: (between ++ .response id' page' :: after)) s') :
    Ahead page.internal page'.internal := by
  obtain ⟨_, state, _, _, first, last, rest, -, action, -, split, resumed⟩ := run.resumed rfl
  obtain ⟨-, internal, -, rfl⟩ := responded_cases (step_cases action)
  obtain ⟨_, _, _, _, _, _, ahead, action', -⟩ := resumed.emitted split.symm
  obtain ⟨-, internal', -, -⟩ := responded_cases (step_cases action')
  rw [internal, internal']
  exact (ahead_step (step_cases action)).trans (ahead_run ahead)

/-- The counters on a page: the scrapes number every scrape that is answered with it, and none that was not
accepted, and the page of a scrape that comes after the answer is nowhere behind. -/
theorem scraped_counters {before after : List (Event σ)} {id : Nat} {page : Page}
    (run : (machine config t).Run (spawned config t worlds startTime) (before ++ .response id page :: after) s) :
    before.countP isResponse < page.internal.prometheusScrapesTotal ∧
      page.internal.prometheusScrapesTotal ≤ before.countP isAccepted ∧
      page.internal.collectorsTotal = config.collectors.length ∧ page.internal.otlpErrorsTotal = 0 ∧
      ∀ between id' during page' later, after = between ++ .accepted id' :: (during ++ .response id' page' :: later) →
        Ahead page.internal page'.internal := by
  obtain ⟨_, state, input, state', first, last, previous, action, rfl⟩ := run.emitted rfl
  obtain ⟨place, internal, rfl, -⟩ := responded_cases (step_cases action)
  have start := ahead_run previous
  have tallies := tallies_run previous
  have others := HashMap.countP_erase uncounted place
  have length := HashMap.countP_erase (fun _ => true) place
  have fewer := (state.handlers.erase id).entries.countP_le_length (p := uncounted)
  simp only [List.countP_true, if_true] at length
  rw [List.append_nil] at run ⊢
  have answered := tallies.answered
  have counted := tallies.counted
  have accepted := tallies.accepted
  refine ⟨?_, ?_, ?_, ?_, ?_⟩
  · simp only [uncounted, Bool.false_eq_true, if_false] at others
    rw [internal]
    omega
  · rw [internal]
    omega
  · rw [internal]
    exact start.collectorsTotal
  · rw [internal]
    exact start.otlpErrorsTotal
  · rintro between id' during page' later rfl
    have regrouped : between ++ .accepted id' :: (during ++ .response id' page' :: later) =
        (between ++ .accepted id' :: during) ++ .response id' page' :: later := by simp
    rw [regrouped] at run
    exact response_ahead run

theorem scraped_page_plant :
    ∃ (earlier during : List (Event fun _ : Fin 1 => Collector.Script)) (page : Page),
      .accepted 0 ∈ earlier ∧ ∃ sofar rest, during = sofar ++ rest ∧
        page.store.lookup "boiler" = latest ⟨0, Nat.one_pos⟩ (earlier ++ sofar) := by
  have executed : ∃ e₁ e₂ e₃ e₄ e₅ e₆ e₇ e₈ e₉ page s,
      (machine plantConfig plantTask).exec plantStart (plantCycle ++ [.bind true] ++ plantScrape 0) =
        some ([e₁, e₂, e₃, e₄, e₅, e₆, e₇, e₈, e₉] ++ .response 0 page :: [], s) :=
    ⟨_, _, _, _, _, _, _, _, _, _, _, rfl⟩
  obtain ⟨e₁, e₂, e₃, e₄, e₅, e₆, e₇, e₈, e₉, page, s, executed⟩ := executed
  obtain ⟨earlier, during, later, parts, split, accepted, -, -, -, moments⟩ :=
    scraped_page plant_valid plant_spawns (Machine.exec_run executed)
  exact ⟨earlier, during, page, accepted, moments ⟨0, Nat.one_pos⟩⟩

theorem scraped_counters_plant :
    ∃ page page' : Page, 0 < page.internal.prometheusScrapesTotal ∧ page.internal.collectorsTotal = 1 ∧
      Ahead page.internal page'.internal ∧ 1 < page'.internal.prometheusScrapesTotal := by
  have executed : ∃ e₁ e₂ e₃ e₄ e₅ e₆ e₇ e₈ e₉ page e₁₀ e₁₁ page' s,
      (machine plantConfig plantTask).exec plantStart
          (plantCycle ++ [.bind true] ++ plantScrape 0 ++ plantScrape 1) =
        some ([e₁, e₂, e₃, e₄, e₅, e₆, e₇, e₈, e₉] ++ .response 0 page :: ([] ++ .accepted 1 ::
          ([e₁₀, e₁₁] ++ .response 1 page' :: [])), s) :=
    ⟨_, _, _, _, _, _, _, _, _, _, _, _, _, _, rfl⟩
  obtain ⟨e₁, e₂, e₃, e₄, e₅, e₆, e₇, e₈, e₉, page, e₁₀, e₁₁, page', s, executed⟩ := executed
  have run := Machine.exec_run executed
  obtain ⟨answered, -, collectors, -, ahead⟩ := scraped_counters run
  -- the second page has no later scrape
  have split : [e₁, e₂, e₃, e₄, e₅, e₆, e₇, e₈, e₉] ++ .response 0 page :: ([] ++ .accepted 1 ::
      ([e₁₀, e₁₁] ++ .response 1 page' :: [])) =
        ([e₁, e₂, e₃, e₄, e₅, e₆, e₇, e₈, e₉] ++ .response 0 page :: .accepted 1 :: [e₁₀, e₁₁]) ++
          .response 1 page' :: [] := by simp
  rw [split] at run
  obtain ⟨second, -⟩ := scraped_counters run
  refine ⟨page, page', Nat.zero_lt_of_lt answered, collectors, ahead [] 1 _ page' [] rfl, ?_⟩
  exact Nat.lt_of_le_of_lt (by simp [isResponse]) second

end BusExporter.Daemon
