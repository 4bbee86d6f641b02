import BusExporter.Proof.Provenance

/-! The rounds of the exporters that push: whatever a walk of the store found is sent once and in the order of the
walk, before anything else is done. -/

namespace BusExporter.Daemon
open Lib Config

variable {n : Nat} {σ : Fin n → Type} {config : Config} {t : ∀ i, Collector.Task (σ i)} {worlds : ∀ i, σ i}
  {startTime : Internal.Instant} {trace : List (Event σ)} {s s' : System σ} {input : Input n}
  {events : List (Event σ)}

abbrev Parts := List (Σ _ : String, List MetricValue)

def flat (parts : Parts) : List MetricValue := MetricStore.allMetricsFlat [] parts.toAList

def leavesRound : Event σ → Bool
  | .walkStarted .mqtt | .walked .mqtt _ => true
  | .mqtt (.attempt _) | .mqtt (.online _) | .mqtt (.offline _) | .mqtt (.waited _) => true
  | _ => false

def sentOf : Event σ → Option MetricValue
  | .mqtt (.published m _ _) => some m
  | _ => none

abbrev Round := Option (Parts × List MetricValue)

def track (round : Round) (e : Event σ) : Round :=
  match e with
  | .walked .mqtt parts => some (parts, [])
  | .mqtt (.published m _ _) => round.map fun r => (r.1, r.2 ++ [m])
  | e => if leavesRound e then none else round

theorem track_quiet (round : Round) {e : Event σ} (stays : leavesRound e = false) (unsent : sentOf e = none) :
    track round e = round := by
  unfold track
  split
  · cases stays
  · cases unsent
  · rw [stays]
    rfl

theorem track_all_quiet (round : Round) (quiet : ∀ e ∈ events, leavesRound e = false ∧ sentOf e = none) :
    events.foldl track round = round := by
  induction events with
  | nil => rfl
  | cons e events ih =>
      have here := quiet e List.mem_cons_self
      rw [List.foldl_cons, track_quiet round here.1 here.2]
      exact ih fun e member => quiet e (List.mem_cons_of_mem _ member)

theorem track_during (parts : Parts) (sent : List MetricValue)
    (stays : ∀ e ∈ events, leavesRound e = false) :
    events.foldl track (some (parts, sent)) = some (parts, sent ++ events.filterMap sentOf) := by
  induction events generalizing sent with
  | nil => simp
  | cons e events ih =>
      have here := stays e List.mem_cons_self
      have later := fun e member => stays e (List.mem_cons_of_mem _ member)
      rw [List.foldl_cons]
      cases shown : sentOf e with
      | none => rw [track_quiet _ here shown, ih sent later, List.filterMap_cons_none shown]
      | some m =>
          have next : track (some (parts, sent)) e = some (parts, sent ++ [m]) := by
            cases e with
            | mqtt own => cases own <;> cases shown; rfl
            | _ => cases shown
          rw [next, ih _ later, List.filterMap_cons_some shown, List.append_assoc]
          rfl

theorem track_unsent (round : Round) {shown : List Mqtt.Event}
    (unsent : ∀ m message accepted, .published m message accepted ∉ shown) :
    (shown.map (Event.mqtt (σ := σ))).foldl track round = round ∨
      (shown.map (Event.mqtt (σ := σ))).foldl track round = none := by
  induction shown generalizing round with
  | nil => exact .inl rfl
  | cons e shown ih =>
      have later : ∀ m message accepted, .published m message accepted ∉ shown := fun m message accepted member =>
        unsent m message accepted (List.mem_cons_of_mem _ member)
      have first : track round (Event.mqtt (σ := σ) e) = round ∨ track round (Event.mqtt (σ := σ) e) = none := by
        cases e with
        | published m message accepted => exact absurd List.mem_cons_self (unsent m message accepted)
        | connAck | failed => exact .inl rfl
        | attempt | online | offline | waited => exact .inr rfl
      rw [List.map_cons, List.foldl_cons]
      rcases first with same | left
      · rw [same]
        exact ih round later
      · rw [left]
        exact .inr ((ih none later).elim id id)

def Idle (s : System σ) : Prop := ∀ own, s.mqtt = some own → own.pc.Idle

def InRound (s : System σ) : Round → Prop
  | none => Idle s
  | some (parts, sent) => ∃ due, sent ++ due = flat parts ∧
      ((∃ own options, s.mqtt = some own ∧ own.pc = .publishing options due) ∨ due = [] ∧ Idle s)

theorem Idle.inRound {round : Round} (idle : Idle s) (inRound : InRound s round) (idle' : Idle s') :
    InRound s' round := by
  cases round with
  | none => exact idle'
  | some r =>
      obtain ⟨due, whole, ⟨own, options, present, place⟩ | ⟨rfl, -⟩⟩ := inRound
      · exact absurd place (idle own present options due)
      · exact ⟨[], whole, .inr ⟨rfl, idle'⟩⟩

theorem inRound_kept {round : Round} (inRound : InRound s round)
    (kept : ∀ own', s'.mqtt = some own' → ∃ own, s.mqtt = some own ∧ own'.pc = own.pc)
    (kept' : ∀ own, s.mqtt = some own → ∃ own', s'.mqtt = some own' ∧ own'.pc = own.pc) : InRound s' round := by
  have idle (before : Idle s) : Idle s' := by
    intro own' present'
    obtain ⟨own, present, same⟩ := kept own' present'
    rw [same]
    exact before own present
  cases round with
  | none => exact idle inRound
  | some r =>
      obtain ⟨due, whole, ⟨own, options, present, place⟩ | ⟨rfl, before⟩⟩ := inRound
      · obtain ⟨own', present', same⟩ := kept' own present
        exact ⟨due, whole, .inl ⟨own', options, present', same.trans place⟩⟩
      · exact ⟨[], whole, .inr ⟨rfl, idle before⟩⟩

theorem inRound_turn {round : Round} (inRound : InRound s round) {own next : Mqtt.State} {given : Mqtt.Input}
    {shown : List Mqtt.Event} (present : s.mqtt = some own) (present' : s'.mqtt = some next)
    (turn : Mqtt.Turn own next given shown)
    (elsewhere : ∀ env options, given = .main env → own.pc = .serving options → env.wake ≠ .slept) :
    InRound s' ((shown.map (Event.mqtt (σ := σ))).foldl track round) ∧
      ∀ e ∈ shown.map (Event.mqtt (σ := σ)), leavesRound e = true → Idle s := by
  have idleAt {s : System σ} {own : Mqtt.State} (present : s.mqtt = some own) (place : own.pc.Idle) : Idle s := by
    intro other here
    cases present.symm.trans here
    exact place
  have publishing {due : List MetricValue} {options : Mqtt.MqttOptions} (place : own.pc = .publishing options due) :
      ∃ parts sent, round = some (parts, sent) ∧ sent ++ due = flat parts := by
    cases round with
    | none => exact absurd place (inRound own present options due)
    | some r =>
        obtain ⟨due', whole, ⟨own', options', here, place'⟩ | ⟨-, idle⟩⟩ := inRound
        · cases present.symm.trans here
          cases place.symm.trans place'
          exact ⟨r.1, r.2, rfl, whole⟩
        · exact absurd place (idle own present options due)
  cases turn with
  | begins main place woken => exact absurd woken (elsewhere _ _ main place)
  | sends place place' sent =>
      obtain ⟨parts, before, rfl, whole⟩ := publishing place
      subst sent
      refine ⟨⟨_, ?_, .inl ⟨next, _, present', place'⟩⟩, by simp [leavesRound]⟩
      rw [List.append_assoc]
      exact whole
  | finishes place place' silent =>
      obtain ⟨parts, before, rfl, whole⟩ := publishing place
      subst silent
      exact ⟨⟨[], whole, .inr ⟨rfl, idleAt present' place'⟩⟩, by simp⟩
  | watches place reported =>
      have quiet : ∀ e ∈ shown.map (Event.mqtt (σ := σ)), leavesRound e = false ∧ sentOf e = none := by
        intro e member
        obtain ⟨report, told, rfl⟩ := List.mem_map.mp member
        rcases reported report told with rfl | rfl <;> exact ⟨rfl, rfl⟩
      refine ⟨?_, fun e member leaves => by simp [(quiet e member).1] at leaves⟩
      rw [track_all_quiet round quiet]
      refine inRound_kept inRound ?_ ?_
      · intro other here
        cases present'.symm.trans here
        exact ⟨own, present, place⟩
      · intro other here
        cases present.symm.trans here
        exact ⟨next, present', place⟩
  | apart place place' unsent =>
      have before := idleAt present place
      refine ⟨?_, fun _ _ _ => before⟩
      rcases track_unsent round unsent with same | left
      · rw [same]
        exact before.inRound inRound (idleAt present' place')
      · rw [left]
        exact idleAt present' place'

theorem inRound_step {round : Round} (inRound : InRound s round) (step : Step config t s input s' events) :
    InRound s' (events.foldl track round) ∧ ∀ e ∈ events, leavesRound e = true → Idle s := by
  have apart (mqtt : s'.mqtt = s.mqtt) (quiet : ∀ e ∈ events, leavesRound e = false ∧ sentOf e = none) :
      InRound s' (events.foldl track round) ∧ ∀ e ∈ events, leavesRound e = true → Idle s := by
    refine ⟨?_, fun e member leaves => by simp [(quiet e member).1] at leaves⟩
    rw [track_all_quiet round quiet]
    exact inRound_kept inRound (fun own here => ⟨own, mqtt ▸ here, rfl⟩) fun own here => ⟨own, mqtt ▸ here, rfl⟩
  cases step
  case cancelled place =>
      refine ⟨inRound_kept inRound ?_ ?_, by simp [leavesRound]⟩
      · intro own' here
        obtain ⟨own, present, rfl⟩ := Option.map_eq_some_iff.mp here
        exact ⟨own, present, rfl⟩
      · intro own here
        exact ⟨{ own with cancelled := true }, by simp [here], rfl⟩
  case collector i env next own action => exact apart rfl (by simp [leavesRound, sentOf])
  case otlp => exact apart rfl (by simp [leavesRound, sentOf])
  case otlpWalked => exact apart rfl (by simp [leavesRound, sentOf])
  case scraped => exact apart rfl (by simp [leavesRound, sentOf])
  case walkStarted walker idle asked =>
      cases walker with
      | mqtt =>
          obtain ⟨own, present, options, place⟩ := asked
          have before : Idle s := by
            intro other here
            cases present.symm.trans here
            simp [place, Mqtt.Pc.Idle]
          exact ⟨before, fun _ _ _ => before⟩
      | scrape id => exact apart rfl (by simp [leavesRound, sentOf])
      | otlp => exact apart rfl (by simp [leavesRound, sentOf])
  case mqtt mqtt input own next shown given present elsewhere alone free action =>
      exact inRound_turn inRound present rfl (Mqtt.turn_of_step action) elsewhere
  case mqttWalked mqtt env own next shown options w given present place woken walking done action =>
      have before : Idle s := by
        intro other here
        cases present.symm.trans here
        simp [place, Mqtt.Pc.Idle]
      obtain ⟨taken, rfl⟩ := Mqtt.snapshot_taken place action woken
      exact ⟨⟨flat w.collected, rfl, .inl ⟨next, options, rfl, taken⟩⟩, fun _ _ _ => before⟩
  all_goals exact apart rfl (by simp [leavesRound, sentOf])

theorem inRound_run (run : (machine config t).Run (spawned config t worlds startTime) trace s) :
    InRound s (trace.foldl track none) := by
  refine run.invariant (P := fun trace s => InRound s (trace.foldl track none)) ?_ ?_
  · intro own present
    obtain ⟨exporter, -, rfl⟩ := Option.map_eq_some_iff.mp present
    simp [Mqtt.Pc.Idle]
  · intro trace s input s' events previous before action
    rw [List.foldl_append]
    exact (inRound_step before (step_cases action)).1

theorem track_round {before during : List (Event σ)} {parts : Parts}
    (stays : ∀ e ∈ during, leavesRound e = false) :
    (before ++ .walked .mqtt parts :: during).foldl track none = some (parts, during.filterMap sentOf) := by
  have begins : track (before.foldl track none) (.walked .mqtt parts : Event σ) = some (parts, []) := rfl
  rw [List.foldl_append, List.foldl_cons, begins, track_during parts [] stays, List.nil_append]

theorem leaving_first {first last : List (Event σ)} {e : Event σ} (leaves : leavesRound e = true)
    (step : Step config t s input s' (first ++ e :: last)) : first = [] := by
  generalize whole : first ++ e :: last = events at step
  have member : e ∈ events := by simp [← whole]
  have alone (single : events.length ≤ 1) : first = [] := by
    rw [← whole, List.length_append, List.length_cons] at single
    exact List.length_eq_zero_iff.mp (by omega)
  have silent (quiet : ∀ e ∈ events, leavesRound e = false) : first = [] := by
    rw [quiet e member] at leaves
    cases leaves
  cases step
  case collector => exact silent (by simp [leavesRound])
  case otlp => exact silent (by simp [leavesRound])
  case otlpWalked => exact silent (by simp [leavesRound])
  case mqtt mqtt input own next shown given present elsewhere other free action =>
      exact alone (by simpa using Mqtt.step_single action)
  case mqttWalked mqtt env own next shown options w given present place woken walking done action =>
      obtain ⟨-, rfl⟩ := Mqtt.snapshot_taken place action woken
      exact alone (by simp)
  all_goals exact alone (by simp)

/-- A round of the MQTT exporter publishes what its walk found, once and in the order of the walk, and all of it
before the exporter does anything else. -/
theorem round_complete {before during rest : List (Event σ)} {parts : Parts}
    (run : (machine config t).Run (spawned config t worlds startTime)
      (before ++ .walked .mqtt parts :: (during ++ rest)) s) (stays : ∀ e ∈ during, leavesRound e = false) :
    during.filterMap sentOf <+: flat parts ∧
      ∀ e later, rest = e :: later → leavesRound e = true → during.filterMap sentOf = flat parts := by
  have ends {during later : List (Event σ)} {e : Event σ}
      (run : (machine config t).Run (spawned config t worlds startTime)
        (before ++ .walked .mqtt parts :: (during ++ e :: later)) s)
      (stays : ∀ e ∈ during, leavesRound e = false) (leaves : leavesRound e = true) :
      during.filterMap sentOf = flat parts := by
    rw [← List.cons_append, ← List.append_assoc] at run
    obtain ⟨_, state, input, state', first, last, previous, action, split⟩ := run.emitted rfl
    obtain rfl := leaving_first leaves (step_cases action)
    rw [List.append_nil] at split
    subst split
    have inRound := inRound_run previous
    have idle := (inRound_step inRound (step_cases action)).2 e (by simp) leaves
    rw [track_round stays] at inRound
    obtain ⟨due, whole, ⟨own, options, present, place⟩ | ⟨rfl, -⟩⟩ := inRound
    · exact absurd place (idle own present options due)
    · rw [← whole, List.append_nil]
  constructor
  · cases found : rest.find? leavesRound with
    | none =>
        have quiet : ∀ e ∈ during ++ rest, leavesRound e = false := by
          intro e member
          rcases List.mem_append.mp member with early | late
          · exact stays e early
          · simpa using List.find?_eq_none.mp found e late
        have inRound := inRound_run run
        rw [track_round quiet, List.filterMap_append] at inRound
        obtain ⟨due, whole, -⟩ := inRound
        rw [← whole, List.append_assoc]
        exact List.prefix_append _ _
    | some e =>
        obtain ⟨leaves, mid, later, rfl, quiet⟩ := List.find?_eq_some_iff_append.mp found
        rw [← List.append_assoc] at run
        have whole := ends run ?_ leaves
        · rw [← whole, List.filterMap_append]
          exact List.prefix_append _ _
        · intro e member
          rcases List.mem_append.mp member with early | late
          · exact stays e early
          · simpa using quiet e late
  · rintro e later rfl leaves
    exact ends run stays leaves

def marksRound : Event σ → Bool
  | .walked .otlp _ | .otlp (.shared _) => true
  | _ => false

def trackShare (due : Option Parts) : Event σ → Option Parts
  | .walked .otlp parts => some parts
  | .otlp (.shared _) => none
  | _ => due

theorem trackShare_quiet (due : Option Parts) {e : Event σ} (quiet : marksRound e = false) :
    trackShare due e = due := by
  unfold trackShare
  split
  · cases quiet
  · cases quiet
  · rfl

theorem trackShare_all (due : Option Parts) (quiet : ∀ e ∈ events, marksRound e = false) :
    events.foldl trackShare due = due := by
  induction events generalizing due with
  | nil => rfl
  | cons e events ih =>
      rw [List.foldl_cons, trackShare_quiet due (quiet e List.mem_cons_self)]
      exact ih due fun e member => quiet e (List.mem_cons_of_mem _ member)

theorem trackShare_split {parts : Parts} (due : trace.foldl trackShare none = some parts) :
    ∃ earlier later, trace = earlier ++ .walked .otlp parts :: later ∧ ∀ e ∈ later, marksRound e = false := by
  induction trace using List.reverseRecOn with
  | nil => cases due
  | append_singleton trace e ih =>
      rw [List.foldl_append, List.foldl_cons, List.foldl_nil] at due
      cases marks : marksRound e with
      | false =>
          rw [trackShare_quiet _ marks] at due
          obtain ⟨earlier, later, rfl, quiet⟩ := ih due
          refine ⟨earlier, later ++ [e], by simp, ?_⟩
          intro e' member
          rcases List.mem_append.mp member with old | new
          · exact quiet e' old
          · rw [List.mem_singleton.mp new, marks]
      | true =>
          unfold trackShare at due
          split at due
          · cases due
            exact ⟨trace, [], rfl, by simp⟩
          · cases due
          · unfold marksRound at marks
            split at marks <;> simp_all

theorem trackShare_open (parts : Parts) (unshared : ∀ metrics, .otlp (.shared metrics) ∉ events) :
    ∃ parts', events.foldl trackShare (some parts) = some parts' := by
  induction events generalizing parts with
  | nil => exact ⟨parts, rfl⟩
  | cons e events ih =>
      have later : ∀ metrics, .otlp (.shared metrics) ∉ events := fun metrics member =>
        unshared metrics (List.mem_cons_of_mem _ member)
      rw [List.foldl_cons]
      unfold trackShare
      split
      · exact ih _ later
      · exact absurd List.mem_cons_self (unshared _)
      · exact ih _ later

def DueShare (s : System σ) (due : Option Parts) : Prop := ∀ own, s.otlp = some own → own.pc.held = due.map flat

theorem dueShare_step {due : Option Parts} (dueShare : DueShare s due) (step : Step config t s input s' events) :
    DueShare s' (events.foldl trackShare due) := by
  have quiet (same : s'.otlp = s.otlp) (silent : ∀ e ∈ events, marksRound e = false) :
      DueShare s' (events.foldl trackShare due) := by
    rw [trackShare_all due silent]
    exact fun own here => dueShare own (same ▸ here)
  cases step
  case otlp otlp env own next shown given present elsewhere requested action =>
      intro own' here
      cases here
      cases Otlp.turn_of_taskStep action with
      | begins place => exact absurd place (elsewhere _)
      | shares held held' sent =>
          rw [sent, held']
          rfl
      | keeps _ held unshared =>
          rw [trackShare_all]
          · exact held.trans (dueShare own present)
          · intro e member
            obtain ⟨report, told, rfl⟩ := List.mem_map.mp member
            cases report with
            | shared metrics => exact absurd told (unshared metrics)
            | sharedInternal values => rfl
  case otlpWalked otlp env own next shown flush w given present place walking done action =>
      intro own' here
      cases here
      cases Otlp.turn_of_taskStep action with
      | begins _ silent found =>
          rcases found with ⟨-, absent⟩ | found
          · cases absent
          · rw [silent, found]
            rfl
      | shares held =>
          simp only [place] at held
          cases held
      | keeps elsewhere => exact absurd place (elsewhere flush)
  case collector => exact quiet rfl (by simp [marksRound])
  case mqtt => exact quiet rfl (by simp [marksRound])
  case mqttWalked => exact quiet rfl (by simp [marksRound])
  all_goals exact quiet rfl (by simp [marksRound])

theorem dueShare_run (run : (machine config t).Run (spawned config t worlds startTime) trace s) :
    DueShare s (trace.foldl trackShare none) := by
  refine run.invariant (P := fun trace s => DueShare s (trace.foldl trackShare none)) ?_ ?_
  · intro own present
    obtain ⟨exporter, -, rfl⟩ := Option.map_eq_some_iff.mp present
    rfl
  · intro trace s input s' events previous before action
    rw [List.foldl_append]
    exact dueShare_step before (step_cases action)

theorem walking_cases {first last : List (Event σ)}
    (step : Step config t s input s' (first ++ .walkStarted .otlp :: last)) :
    first = [] ∧ ∃ own flush, s.otlp = some own ∧ own.pc = .snapshot flush := by
  generalize whole : first ++ .walkStarted .otlp :: last = events at step
  have member : .walkStarted .otlp ∈ events := by simp [← whole]
  cases step
  case walkStarted walker idle asked =>
      cases List.mem_singleton.mp member
      obtain ⟨own, present, flush, place⟩ := asked
      refine ⟨?_, own, flush, present, place⟩
      cases first with
      | nil => rfl
      | cons head rest => simp at whole
  all_goals simp at member

/-- The OTLP exporter shares what its walks find: every vector that it shares is what its last walk found, and none
other was shared for that walk; and no walk begins before what the one before it found has been shared. -/
theorem rounds_shared (run : (machine config t).Run (spawned config t worlds startTime) trace s) :
    (∀ before metrics after, trace = before ++ .otlp (.shared metrics) :: after →
      ∃ earlier parts later, before = earlier ++ .walked .otlp parts :: later ∧
        (∀ e ∈ later, marksRound e = false) ∧ metrics = flat parts) ∧
    ∀ before parts during after, trace = before ++ .walked .otlp parts :: (during ++ .walkStarted .otlp :: after) →
      ∃ metrics, .otlp (.shared metrics) ∈ during := by
  constructor
  · rintro before metrics after rfl
    obtain ⟨_, state, input, state', first, last, previous, action, rfl⟩ := run.emitted rfl
    obtain ⟨rfl, own, present, held⟩ := shared_cases (step_cases action)
    have due := dueShare_run previous own present
    rw [held] at due
    obtain ⟨parts, tracked, rfl⟩ := Option.map_eq_some_iff.mp due.symm
    obtain ⟨earlier, later, rfl, quiet⟩ := trackShare_split tracked
    exact ⟨earlier, parts, later, List.append_nil _, quiet, rfl⟩
  · rintro before parts during after rfl
    by_contra none
    rw [← List.cons_append, ← List.append_assoc] at run
    obtain ⟨_, state, input, state', first, last, previous, action, split⟩ := run.emitted rfl
    obtain ⟨rfl, own, flush, present, place⟩ := walking_cases (step_cases action)
    rw [List.append_nil] at split
    subst split
    have due := dueShare_run previous own present
    obtain ⟨parts', undone⟩ := trackShare_open parts fun metrics member => none ⟨metrics, member⟩
    rw [place, List.foldl_append, List.foldl_cons, trackShare, undone] at due
    cases due

def gaugesTask (_ : Fin 1) : Collector.Task Collector.Script :=
  Collector.Script.task [Collector.Script.metric "level", Collector.Script.metric "pressure"] []

def gaugesConfig : Config :=
  { plantConfig with collectors := [(gaugesTask ⟨0, Nat.one_pos⟩).collector] }

def gaugesStart : System fun _ : Fin 1 => Collector.Script :=
  spawned gaugesConfig gaugesTask (fun _ => { reads := [([("level", some 1), ("pressure", some 2)], true)] }) 0

def gaugesRound : List (Input 1) :=
  List.replicate 8 (.collector ⟨0, Nat.one_pos⟩ {}) ++ List.replicate 4 (.mqtt (.main {})) ++
    [.visit .mqtt "boiler", .mqtt (.main {}), .mqtt (.main {}), .main false, .mqtt (.main {}), .mqtt (.main {}),
      .mqtt (.main { wake := .cancelled }), .mqtt (.main { wake := .cancelled })]

/-- The exporters are cancelled between the two messages of the round. -/
theorem round_complete_plant :
    ∃ (before : List (Event fun _ : Fin 1 => Collector.Script)) (parts : Parts) (m m' : MetricValue)
      (message message' : Mqtt.Message) (accepted : Bool) (s : System fun _ : Fin 1 => Collector.Script),
      (machine gaugesConfig gaugesTask).exec gaugesStart gaugesRound =
        some (before ++ .walked .mqtt parts :: [.mqtt (.published m message true), .exportersCancelled,
          .mqtt (.published m' message' true), .mqtt (.offline accepted)], s) ∧
      flat parts = [m, m'] := by
  have executed : ∃ e₁ e₂ e₃ e₄ e₅ e₆ e₇ e₈ e₉ parts m m' message message' accepted s,
      (machine gaugesConfig gaugesTask).exec gaugesStart gaugesRound =
        some ([e₁, e₂, e₃, e₄, e₅, e₆, e₇, e₈, e₉] ++ .walked .mqtt parts ::
          ([.mqtt (.published m message true), .exportersCancelled, .mqtt (.published m' message' true)] ++
            [.mqtt (.offline accepted)]), s) :=
    ⟨_, _, _, _, _, _, _, _, _, _, _, _, _, _, _, _, rfl⟩
  obtain ⟨e₁, e₂, e₃, e₄, e₅, e₆, e₇, e₈, e₉, parts, m, m', message, message', accepted, s, executed⟩ := executed
  have stays : ∀ e ∈ ([.mqtt (.published m message true), .exportersCancelled,
      .mqtt (.published m' message' true)] : List (Event fun _ : Fin 1 => Collector.Script)),
      leavesRound e = false := by simp [leavesRound]
  have whole := (round_complete (Machine.exec_run executed) stays).2 _ [] rfl rfl
  exact ⟨_, parts, m, m', message, message', accepted, s, executed, whole.symm⟩

theorem rounds_shared_plant :
    ∃ (metrics : List MetricValue) (parts : Parts), (∃ trace s, (machine plantConfig plantTask).Run plantStart trace s ∧
      .otlp (.shared metrics) ∈ trace ∧ .walked .otlp parts ∈ trace) ∧ metrics = flat parts := by
  have executed : ∃ e₁ e₂ e₃ e₄ e₅ e₆ e₇ e₈ e₉ e₁₀ e₁₁ e₁₂ metrics last s,
      (machine plantConfig plantTask).exec plantStart plantDay =
        some ([e₁, e₂, e₃, e₄, e₅, e₆, e₇, e₈, e₉, e₁₀, e₁₁, e₁₂] ++ .otlp (.shared metrics) :: last, s) :=
    ⟨_, _, _, _, _, _, _, _, _, _, _, _, _, _, _, rfl⟩
  obtain ⟨e₁, e₂, e₃, e₄, e₅, e₆, e₇, e₈, e₉, e₁₀, e₁₁, e₁₂, metrics, last, s, executed⟩ := executed
  have run := Machine.exec_run executed
  obtain ⟨earlier, parts, later, split, -, whole⟩ := (rounds_shared run).1 _ metrics last rfl
  refine ⟨metrics, parts, ⟨_, s, run, by simp, ?_⟩, whole⟩
  rw [split]
  simp

end BusExporter.Daemon
