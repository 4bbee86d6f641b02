import BusExporter.Proof.RunSteps
import BusExporter.Proof.StoreHistory

/-! Whether the final flush of the OTLP exporter has the last word of every collector. The exporters are
cancelled before the collectors are told to stop, so a collector that is still in a cycle can publish after
the flush has looked at the store. -/

namespace BusExporter.Collector
open Lib Config

variable {σ : Type} (t : Task σ)

def Lost (world : σ) (entries : List ReadEntry) : Prop :=
  t.reader.isConnected world = false ∧
    ∃ e ∈ entries, (∃ cfg, t.collector.metrics.find? (·.name = e.1) = some cfg) ∧ ∃ err, e.2 = .error err

def ReadsThrough (cancelled : Bool) (world : σ) : Prop :=
  ∃ read world', t.reader.read (fun _ => cancelled) world = .ok (read, world') ∧
    ¬Lost t world' read.metrics.entries

def Publishes (s : State σ) : Prop :=
  match s.pc with
  | .prePoll => ∃ world, executeWrites t t.collector.prePoll s.world = (.ok (), world) ∧
      ReadsThrough t s.cancelled world
  | .read => ReadsThrough t s.cancelled s.world
  | .results _ rest => ¬Lost t s.world rest
  | .publish _ => True
  | _ => False

variable {t}

theorem lost_perm {world : σ} {entries entries' : List ReadEntry} (same : entries.Perm entries') :
    Lost t world entries ↔ Lost t world entries' := by
  unfold Lost
  simp only [same.mem_iff]

def Settled (t : Task σ) (s : State σ) : Prop := s.shutdown = true ∧ ¬Publishes t s

theorem Lost.tail {world : σ} {entry : ReadEntry} {rest : List ReadEntry}
    (lost : Lost t world (entry :: rest))
    (harmless : t.collector.metrics.find? (·.name = entry.1) = none ∨ ∃ value, entry.2 = .ok value) :
    Lost t world rest := by
  obtain ⟨gone, e, member, ⟨cfg, known⟩, err, failed⟩ := lost
  refine ⟨gone, e, ?_, ⟨cfg, known⟩, err, failed⟩
  rcases List.mem_cons.mp member with rfl | later
  · rcases harmless with unknown | ⟨value, ok⟩
    · rw [unknown] at known
      cases known
    · rw [ok] at failed
      cases failed
  · exact later

theorem settled_step {s s' : State σ} {events : List (Event σ)} (settled : Settled t s)
    (step : TaskStep t s s' events) :
    Settled t s' ∧ s'.store = s.store ∧ ∀ e ∈ events, e.isPublish = false := by
  obtain ⟨sent, done⟩ := settled
  cases step
  case proceed place running =>
      rw [sent] at running
      cases running
  case prePolled world place ok =>
      refine ⟨⟨sent, fun publishes => done ?_⟩, rfl, by simp [Event.isPublish]⟩
      simp only [Publishes, place] at publishes ⊢
      exact ⟨world, ok, publishes⟩
  case readDone env read world place ok =>
      refine ⟨⟨sent, fun publishes => done ?_⟩, rfl, by simp [Event.isPublish]⟩
      simp only [Publishes, place] at publishes ⊢
      exact ⟨read, world, ok, (lost_perm (HashMap.iter_perm _ _)).not.mp publishes⟩
  case ignored read entry rest place unknown =>
      simp only [Publishes, place, not_not] at done
      exact ⟨⟨sent, not_not.mpr (done.tail (.inl unknown))⟩, rfl, by simp⟩
  case stored env read name raw scaled cfg rest place known =>
      simp only [Publishes, place, not_not] at done
      exact ⟨⟨sent, not_not.mpr (done.tail (.inr ⟨(raw, scaled), rfl⟩))⟩, rfl, by simp⟩
  case errorCounted read name e cfg rest place known connected =>
      simp only [Publishes, place, not_not] at done
      rw [done.1] at connected
      cases connected
  case completed env read place =>
      simp only [Publishes, place, not_not] at done
      obtain ⟨-, e, member, -⟩ := done
      cases member
  case published env read place =>
      simp only [Publishes, place, not_true] at done
  case connected world place ok | reconnected world place ok =>
      refine ⟨⟨sent, ?_⟩, rfl, by simp [Event.isPublish]⟩
      simp only [State.afterConnect]
      split_ifs <;> simp [Publishes]
  case prePollFailed e world place failed =>
      refine ⟨⟨sent, ?_⟩, rfl, by simp [Event.isPublish]⟩
      by_cases third : 3 ≤ s.prePollFailures + 1 <;> simp [Publishes, third]
  all_goals exact ⟨⟨sent, by simp [Publishes, State.stop]⟩, rfl, by simp [State.stop, Event.isPublish]⟩

end BusExporter.Collector

namespace BusExporter.RunCommand
open Lib Config Collector

variable {n : Nat} {σ : Fin n → Type} (t : ∀ i, Collector.Task (σ i))

def publishOf (i : Fin n) : Event σ → Option (List MetricValue)
  | .collector j (.publish snapshot) => if j = i then some snapshot else none
  | _ => none

def lastPublished (i : Fin n) (trace : List (Event σ)) : List MetricValue :=
  (trace.filterMap (publishOf i)).getLast?.getD []

theorem lastPublished_quiet (i : Fin n) (trace : List (Event σ)) {events : List (Event σ)}
    (quiet : ∀ e ∈ events, publishOf i e = none) :
    lastPublished i (trace ++ events) = lastPublished i trace := by
  rw [lastPublished, List.filterMap_append, List.filterMap_eq_nil_iff.mpr quiet, List.append_nil,
    lastPublished]

theorem publishOf_own {i j : Fin n} {own : List (Collector.Event (σ j))}
    (quiet : ∀ e ∈ own, e.isPublish = false) :
    ∀ e ∈ own.map (RunCommand.Event.collector j), publishOf i e = none := by
  intro e member
  obtain ⟨e, inOwn, rfl⟩ := List.mem_map.mp member
  cases e with
  | publish snapshot => cases quiet _ inOwn
  | _ => rfl

theorem MainMoves.quiet {s s' : System σ} {events : List (Event σ)} (moves : MainMoves s s' events)
    (i : Fin n) : ∀ e ∈ events, publishOf i e = none := by
  intro e member
  rcases moves.events e member with rfl | rfl | rfl | rfl <;> rfl

variable {t}

def Holds (t : ∀ i, Collector.Task (σ i)) (trace : List (Event σ)) (s : System σ) : Prop :=
  ∀ i, MetricStore.metricsFor s.store.map (t i).collector.name = lastPublished i trace

theorem holds_step (distinct : Function.Injective fun i => (t i).collector.name)
    {trace : List (Event σ)} {s s' : System σ} {input : Input n} {events : List (Event σ)}
    (holds : Holds t trace s) (step : Step t s input s' events) : Holds t (trace ++ events) s' := by
  intro i
  cases step with
  | main moves =>
      rw [lastPublished_quiet i trace (moves.quiet i), moves.frame.1]
      exact holds i
  | @collector j env next own action =>
      rcases store_step action with ⟨same, quiet⟩ | ⟨env, rfl, rfl⟩
      · rw [lastPublished_quiet i trace (publishOf_own quiet)]
        simp only [same]
        exact holds i
      · by_cases here : j = i
        · subst here
          simp [lastPublished, publishStep, publishOf]
        · have other : (t i).collector.name ≠ (t j).collector.name :=
            fun same => here (distinct same).symm
          rw [lastPublished_quiet i trace (by simp [publishStep, publishOf, here])]
          rw [← holds i]
          simp only [publishStep, MetricStore.publish, MetricStore.metricsFor, view]
          rw [AList.lookup_insert_ne other]
  | ticked idle | flushing idle | visited walking fresh | collected place =>
      rw [List.append_nil]
      exact holds i
  | flushed place walking done | stopped place =>
      rw [lastPublished_quiet i trace (by simp [publishOf])]
      exact holds i

structure Final (t : ∀ i, Collector.Task (σ i)) (m : MetricStore) (later : List (Event σ)) (s : System σ) :
    Prop where
  settled : ∀ i, Settled (t i) (s.collectors i)
  kept : s.store.map = m
  begun : s.exporter ≠ .waiting ∧ s.exporter ≠ .collecting
  walking : s.exporter = .flushing → ∃ w, s.store.walks () = some w ∧ SharedMap.Once w ∧
    ∀ k, SharedMap.Tracks (m.lookup k) k m w
  quiet : ∀ i, ∀ e ∈ later, publishOf i e = none
  taken : ∀ parts, .finalSnapshot parts ∈ later → s.exporter ≠ .flushing ∧
    s.sharedMetrics = StoreAccess.flat parts ∧ ∀ name, StoreAccess.part name parts = m.metricsFor name
  exported : ∀ metrics, .exported metrics ∈ later → metrics = s.sharedMetrics ∧ s.exporter = .stopped

theorem Final.append {m : MetricStore} {later events : List (Event σ)} {s : System σ}
    (final : Final t m later s) (quiet : ∀ i, ∀ e ∈ events, publishOf i e = none)
    (silent : ∀ e ∈ events, (∀ parts, e ≠ .finalSnapshot parts) ∧ ∀ metrics, e ≠ .exported metrics) :
    Final t m (later ++ events) s where
  settled := final.settled
  kept := final.kept
  begun := final.begun
  walking := final.walking
  quiet i := List.forall_mem_append.mpr ⟨final.quiet i, quiet i⟩
  taken parts member := by
    rcases List.mem_append.mp member with old | new
    · exact final.taken parts old
    · exact absurd rfl ((silent _ new).1 parts)
  exported metrics member := by
    rcases List.mem_append.mp member with old | new
    · exact final.exported metrics old
    · exact absurd rfl ((silent _ new).2 metrics)

theorem final_step {m : MetricStore} {later : List (Event σ)} {s s' : System σ} {input : Input n}
    {events : List (Event σ)} (final : Final t m later s) (step : Step t s input s' events) :
    Final t m (later ++ events) s' := by
  cases step with
  | main moves =>
      obtain ⟨store, exporter, shared⟩ := moves.frame
      have next : Final t m later s' := by
        refine ⟨fun i => ?_, ?_, ?_, ?_, final.quiet, ?_, ?_⟩
        · obtain ⟨shutdown, same, raised⟩ := moves.collectors i
          obtain ⟨sent, done⟩ := final.settled i
          rw [same]
          exact ⟨raised sent, done⟩
        · rw [store]
          exact final.kept
        · rw [exporter]
          exact final.begun
        · rw [exporter, store]
          exact final.walking
        · rw [exporter, shared]
          exact final.taken
        · rw [exporter, shared]
          exact final.exported
      apply next.append moves.quiet
      intro e member
      rcases moves.events e member with rfl | rfl | rfl | rfl <;> simp
  | @collector j env next own action =>
      have before : Settled (t j) (view s j) := final.settled j
      obtain ⟨settled, same, quiet⟩ := settled_step before action
      have moved : Final t m later { s with
          collectors := Function.update s.collectors j next
          store := { s.store with map := next.store }
          internal := next.internal } := by
        refine ⟨fun i => ?_, same.trans final.kept, final.begun, final.walking, final.quiet, final.taken,
          final.exported⟩
        by_cases here : i = j
        · subst here
          simpa using settled
        · simpa [here] using final.settled i
      apply moved.append fun i => publishOf_own quiet
      intro e member
      obtain ⟨e, -, rfl⟩ := List.mem_map.mp member
      simp
  | ticked idle | flushing idle => exact absurd idle final.begun.1
  | collected place => exact absurd place final.begun.2
  | @visited w name walking fresh =>
      rw [List.append_nil]
      refine ⟨final.settled, final.kept, final.begun, fun place => ?_, final.quiet, final.taken,
        final.exported⟩
      obtain ⟨w', walking', once, tracks⟩ := final.walking place
      obtain rfl : w = w' := Option.some.inj (walking.symm.trans walking')
      refine ⟨w.visit m name, by simp [SharedMap.setWalk, final.kept], once.visit m fresh, fun k => ?_⟩
      exact (tracks k).visit fresh
  | @flushed w place walking done =>
      obtain ⟨w', walking', once, tracks⟩ := final.walking place
      obtain rfl : w = w' := Option.some.inj (walking.symm.trans walking')
      refine ⟨final.settled, final.kept, by simp, by simp,
        fun i => List.forall_mem_append.mpr ⟨final.quiet i, by simp [publishOf]⟩, fun parts member => ?_,
        fun metrics member => ?_⟩
      · rcases List.mem_append.mp member with old | new
        · exact absurd place (final.taken parts old).1
        · cases List.mem_singleton.mp new
          refine ⟨by simp, rfl, fun name => ?_⟩
          rw [StoreAccess.part_eq once.distinct, (tracks name).complete done]
          rfl
      · rcases List.mem_append.mp member with old | new
        · rw [(final.exported metrics old).2] at place
          cases place
        · cases List.mem_singleton.mp new
  | stopped place =>
      refine ⟨final.settled, final.kept, by simp, by simp,
        fun i => List.forall_mem_append.mpr ⟨final.quiet i, by simp [publishOf]⟩, fun parts member => ?_,
        fun metrics member => ?_⟩
      · rcases List.mem_append.mp member with old | new
        · exact ⟨by simp, (final.taken parts old).2⟩
        · cases List.mem_singleton.mp new
      · rcases List.mem_append.mp member with old | new
        · rw [(final.exported metrics old).2] at place
          cases place
        · cases List.mem_singleton.mp new
          exact ⟨rfl, rfl⟩

/-- After the snapshot of the final flush no collector publishes, the snapshot has of every collector what
it has published last, and it is what is exported. -/
def Conclusive (t : ∀ i, Collector.Task (σ i)) (trace : List (Event σ)) : Prop :=
  ∀ before parts after, trace = before ++ .finalSnapshot parts :: after →
    (∀ i snapshot, .collector i (.publish snapshot) ∉ after) ∧
    (∀ i, StoreAccess.part (t i).collector.name parts = lastPublished i trace) ∧
    ∀ metrics, .exported metrics ∈ after → metrics = StoreAccess.flat parts

theorem holds_run (distinct : Function.Injective fun i => (t i).collector.name) {worlds : ∀ i, σ i}
    {trace : List (Event σ)} {s : System σ} (run : (machine t).Run (spawned t worlds) trace s) :
    Holds t trace s := by
  refine run.invariant (P := Holds t) (fun i => rfl) ?_
  intro trace s input s' events _ holds action
  exact holds_step distinct holds (step_cases t action)

theorem unflushed_run {worlds : ∀ i, σ i} {trace : List (Event σ)} {s : System σ}
    (run : (machine t).Run (spawned t worlds) trace s) :
    (s.exporter ≠ .flushed ∧ s.exporter ≠ .stopped) → ∀ parts, .finalSnapshot parts ∉ trace := by
  refine run.invariant (P := fun trace s => (s.exporter ≠ .flushed ∧ s.exporter ≠ .stopped) →
    ∀ parts, .finalSnapshot parts ∉ trace) (by simp) ?_
  intro trace s input s' events _ unflushed action before parts member
  cases step_cases t action with
  | main moves =>
      rw [moves.frame.2.1] at before
      rcases List.mem_append.mp member with old | new
      · exact unflushed before parts old
      · rcases moves.events _ new with wrong | wrong | wrong | wrong <;> cases wrong
  | collector i action =>
      rcases List.mem_append.mp member with old | new
      · exact unflushed before parts old
      · obtain ⟨e, -, wrong⟩ := List.mem_map.mp new
        cases wrong
  | ticked idle | flushing idle =>
      rw [List.append_nil] at member
      exact unflushed (by simp [idle]) parts member
  | collected place =>
      rw [List.append_nil] at member
      exact unflushed (by simp [place]) parts member
  | visited walking fresh =>
      rw [List.append_nil] at member
      exact unflushed before parts member
  | flushed place walking done => simp at before
  | stopped place => simp at before

theorem flush_begins {s s' : System σ} {events : List (Event σ)}
    (flush : (machine t).step s .flush = some (s', events)) : s.exporter = .waiting ∧
      s' = { s with store := s.store.setWalk () (some (.start s.store.map)), exporter := .flushing } ∧
        events = [] := by
  have step : Step t s .flush s' events := step_cases t flush
  cases step with
  | flushing idle => exact ⟨idle, rfl, rfl⟩

theorem final_run {s s₁ s' : System σ} {events later : List (Event σ)}
    (settled : ∀ i, Settled (t i) (s.collectors i)) (flush : (machine t).step s .flush = some (s₁, events))
    (rest : (machine t).Run s₁ later s') : Final t s.store.map later s' := by
  obtain ⟨-, rfl, -⟩ := flush_begins flush
  refine rest.invariant (P := Final t s.store.map) ?_
    fun _ final action => final_step final (step_cases t action)
  refine ⟨settled, rfl, by simp, fun _ => ⟨.start s.store.map, by simp [SharedMap.setWalk], .start _,
    fun k => .start k _⟩, by simp, by simp, by simp⟩

theorem conclusive_after_flush (distinct : Function.Injective fun i => (t i).collector.name)
    {worlds : ∀ i, σ i} {before events later : List (Event σ)} {s s₁ s' : System σ}
    (run : (machine t).Run (spawned t worlds) before s)
    (settled : ∀ i, Settled (t i) (s.collectors i))
    (flush : (machine t).step s .flush = some (s₁, events))
    (rest : (machine t).Run s₁ later s') : Conclusive t (before ++ later) := by
  have final := final_run settled flush rest
  have unflushed := unflushed_run run (by simp [(flush_begins flush).1])
  intro front parts after split
  have inLater : ∃ middle, later = middle ++ .finalSnapshot parts :: after := by
    rcases List.append_eq_append_iff.mp split with ⟨middle, rfl, same⟩ | ⟨middle, rfl, same⟩
    · exact ⟨middle, same⟩
    · cases middle with
      | nil => exact ⟨[], same.symm⟩
      | cons e middle =>
          obtain ⟨rfl, -⟩ := List.cons.inj same
          exact absurd (by simp) (unflushed parts)
  obtain ⟨middle, rfl⟩ := inLater
  obtain ⟨-, shared, taken⟩ := final.taken parts (by simp)
  refine ⟨fun i snapshot member => ?_, fun i => ?_, fun metrics member => ?_⟩
  · have none := final.quiet i _ (List.mem_append_right _ (List.mem_cons_of_mem _ member))
    simp [publishOf] at none
  · rw [lastPublished_quiet i before (final.quiet i), taken, holds_run distinct run i]
  · rw [(final.exported metrics (List.mem_append_right _ (List.mem_cons_of_mem _ member))).1, shared]

/-- The final flush begins with the flag sent and no collector between a passed shutdown check and the
publish it leads to. -/
def FlushesSettled (t : ∀ i, Collector.Task (σ i)) (s : System σ) (input : Input n) : Prop :=
  match input with
  | .flush => ∀ i, Settled (t i) (s.collectors i)
  | _ => True

theorem flushed_before {worlds : ∀ i, σ i} {trace : List (Event σ)} {s : System σ}
    (run : (machine t).RunWhere (FlushesSettled t) (spawned t worlds) trace s) :
    s.exporter = .waiting ∨ s.exporter = .collecting ∨
      ∃ before later s₀ s₁ events, trace = before ++ later ∧ (machine t).Run (spawned t worlds) before s₀ ∧
        (∀ i, Settled (t i) (s₀.collectors i)) ∧ (machine t).step s₀ .flush = some (s₁, events) ∧
          (machine t).Run s₁ later s := by
  induction run with
  | start => exact .inl rfl
  | @next trace events s s' input previous free action ih =>
      rcases ih with waiting | collecting | ⟨before, later, s₀, s₁, first, rfl, run, settled, flush, rest⟩
      · cases step_cases t action with
        | main moves => exact .inl (moves.frame.2.1.trans waiting)
        | collector i own => exact .inl waiting
        | ticked idle => exact .inr (.inl rfl)
        | flushing idle =>
            exact .inr (.inr ⟨trace, [], s, _, [], rfl, previous.run, free, action, .start⟩)
        | visited walking fresh => exact .inl waiting
        | collected place | flushed place walking done | stopped place =>
            rw [waiting] at place
            cases place
      · cases step_cases t action with
        | main moves => exact .inr (.inl (moves.frame.2.1.trans collecting))
        | collector i own => exact .inr (.inl collecting)
        | visited walking fresh => exact .inr (.inl collecting)
        | collected place => exact .inl rfl
        | ticked place | flushing place | flushed place walking done | stopped place =>
            rw [collecting] at place
            cases place
      · exact .inr (.inr ⟨before, later ++ events, s₀, s₁, first, List.append_assoc _ _ _, run, settled,
          flush, rest.next action⟩)

theorem shutdown_conclusive (distinct : Function.Injective fun i => (t i).collector.name)
    {worlds : ∀ i, σ i} {trace : List (Event σ)} {s : System σ}
    (run : (machine t).RunWhere (FlushesSettled t) (spawned t worlds) trace s) : Conclusive t trace := by
  have noFlush : s.exporter = .waiting ∨ s.exporter = .collecting → Conclusive t trace := by
    intro place front parts after split
    have unflushed := unflushed_run run.run (by rcases place with place | place <;> simp [place])
    exact absurd (by simp [split]) (unflushed parts)
  rcases flushed_before run with place | place | ⟨before, later, s₀, s₁, events, rfl, run, settled, flush, rest⟩
  · exact noFlush (.inl place)
  · exact noFlush (.inr place)
  · exact conclusive_after_flush distinct run settled flush rest

def tankTask (_ : Fin 1) : Collector.Task Script := Script.task [Script.metric "level"] []

def tankStart : System fun _ : Fin 1 => Script :=
  spawned tankTask fun _ => { reads := [([("level", some 1)], true)] }

def polls (count : Nat) : List (Input 1) := List.replicate count (.collector 0 {})

theorem shutdown_conclusive_tank :
    ∃ trace parts s, (machine tankTask).RunWhere (FlushesSettled tankTask) tankStart trace s ∧
      .finalSnapshot parts ∈ trace ∧ Conclusive tankTask trace := by
  have served : ((machine tankTask).exec tankStart (polls 7 ++ [.main, .main])).map
      (fun run => ((run.2.collectors 0).shutdown, (run.2.collectors 0).pc)) = some (true, .endWait) := rfl
  have flushed : ∃ e₁ e₂ e₃ e₄ e₅ e₆ parts s, (machine tankTask).exec tankStart
      (polls 7 ++ [.main, .main] ++ ([.flush] ++ [.visit "boiler", .finish])) =
      some ([e₁, e₂, e₃, e₄, e₅, e₆, .exportersCancelled, .flagSent, .finalSnapshot parts], s) :=
    ⟨_, _, _, _, _, _, _, _, rfl⟩
  obtain ⟨e₁, e₂, e₃, e₄, e₅, e₆, parts, s, whole⟩ := flushed
  obtain ⟨front, before, rest, first, second, split⟩ := Machine.exec_append whole
  obtain ⟨during, after, last, flush, third, rfl⟩ := Machine.exec_cons second
  rw [first] at served
  obtain ⟨sent, place⟩ := Prod.mk.inj (Option.some.inj served)
  have settled : FlushesSettled tankTask before .flush := by
    intro i
    obtain rfl : i = 0 := Subsingleton.elim i 0
    dsimp only at sent place
    exact ⟨sent, by simp [Publishes, place]⟩
  have free : ∀ input ∈ polls 7 ++ [.main, .main], ∀ s, FlushesSettled tankTask s input := by
    simp [polls, FlushesSettled]
  have walks : ∀ input ∈ ([.visit "boiler", .finish] : List (Input 1)),
      ∀ s, FlushesSettled tankTask s input := by
    simp [FlushesSettled]
  have run := ((Machine.RunWhere.start.append_exec first free).next settled flush).append_exec third walks
  have distinct : Function.Injective fun i => (tankTask i).collector.name :=
    fun i j _ => Subsingleton.elim i j
  refine ⟨_, parts, s, run, ?_, shutdown_conclusive distinct run⟩
  rw [List.nil_append, List.append_assoc, ← split]
  simp

/-- The collector is in a cycle when the exporters are cancelled, and publishes after the flush. -/
theorem flush_misses_publish :
    ∃ trace s, (machine tankTask).Run tankStart trace s ∧ s.main = .done ∧ ¬Conclusive tankTask trace := by
  have shutdown : ∃ e₁ e₂ e₃ snapshot e₄ e₅ metrics, ((machine tankTask).exec tankStart
      (polls 3 ++ [.main, .flush, .finish, .main] ++ polls 4 ++
        [.collector 0 { wake := .shutdown }, .main, .shutdownProvider, .main])).map
      (fun run => (run.1, run.2.main)) =
      some ([e₁, e₂, .exportersCancelled] ++ .finalSnapshot [] :: ([.flagSent, e₃] ++ e₄ ++
        .collector 0 (.publish snapshot) :: (e₅ ++ [.collectorsJoined, .exported metrics, .complete])), .done) :=
    ⟨_, _, _, _, [_, _], [_, _], _, rfl⟩
  obtain ⟨e₁, e₂, e₃, snapshot, e₄, e₅, metrics, shutdown⟩ := shutdown
  obtain ⟨⟨trace, s⟩, executed, shape⟩ := Option.map_eq_some_iff.mp shutdown
  obtain ⟨split, done⟩ := Prod.mk.inj shape
  refine ⟨trace, s, Machine.exec_run executed, done, fun conclusive => ?_⟩
  exact (conclusive _ [] _ split).1 0 snapshot (by simp)

end BusExporter.RunCommand
