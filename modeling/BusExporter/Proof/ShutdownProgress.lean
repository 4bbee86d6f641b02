import BusExporter.Proof.ShutdownOrder
import Mathlib.Data.Prod.Lex

/-! The shutdown cannot get stuck: whatever the daemon is in the middle of, each task can go on to its end once it
has been told, and the main task with it. -/

namespace BusExporter

theorem rank_lt {i j k l : Nat} (lower : i < k ∨ i = k ∧ j < l) : toLex (i, j) < toLex (k, l) :=
  Prod.Lex.toLex_lt_toLex.mpr lower

namespace Collector
open Lib Config

variable {σ : Type} (t : Task σ)

def Pc.rank : Pc → Nat ×ₗ Nat
  | .returned _ | .panicked _ => toLex (0, 0)
  | .shutdownCheck | .connectWait | .initWritesWait | .endWait | .reconnectWait => toLex (0, 1)
  | .cycleStart | .publish _ | .reconnect => toLex (0, 2)
  | .abort _ | .prePollAbort | .skipWait | .initWrites | .reconnectInitWrites => toLex (0, 3)
  | .skip | .connect | .reconnectConnect => toLex (0, 4)
  | .results _ rest => toLex (0, 4 + rest.length)
  | .read => toLex (1, 0)
  | .prePoll => toLex (1, 1)

theorem rank_afterConnect (s : State σ) (writes : Pc) (rank : writes.rank = toLex (0, 3)) :
    (s.afterConnect t writes).pc.rank < toLex (0, 4) := by
  unfold State.afterConnect
  dsimp only
  split_ifs
  · rw [rank]
    exact rank_lt (by simp)
  · exact rank_lt (by simp)

theorem rank_resultStep (env : Env) (s : State σ) (read : ReadResults) (entry : ReadEntry) (rest : List ReadEntry) :
    (resultStep t env s read entry rest).pc.rank < toLex (0, 4 + (entry :: rest).length) := by
  have next : toLex (0, 4 + rest.length) < toLex (0, 4 + (entry :: rest).length) := rank_lt (by simp)
  have lost : toLex (0, 3) < toLex (0, 4 + (entry :: rest).length) := rank_lt (.inr ⟨rfl, by omega⟩)
  unfold resultStep
  split
  · exact next
  · split
    · exact next
    · dsimp only
      split_ifs
      · exact next
      · exact lost

theorem flagged_advances {s : State σ} (sent : s.shutdown = true) (path : ∀ path, s.pc ≠ .returned path)
    (cause : ∀ cause, s.pc ≠ .panicked cause) :
    ∃ next events, taskStep t { wake := .shutdown } s = some (next, events) ∧ next.pc.rank < s.pc.rank := by
  have changed : s.changed = true := by simp [State.changed, sent]
  cases place : s.pc with
  | connect =>
      simp only [taskStep, place]
      split
      · exact ⟨_, _, rfl, rank_afterConnect t _ _ rfl⟩
      · exact ⟨_, _, rfl, rank_lt (by simp)⟩
  | connectWait | initWritesWait | reconnectWait =>
      simp only [taskStep, place, changed, if_true]
      exact ⟨_, _, rfl, rank_lt (by simp)⟩
  | initWrites =>
      simp only [taskStep, place]
      split <;> exact ⟨_, _, rfl, rank_lt (by simp)⟩
  | cycleStart | skip | prePollAbort | abort read | publish read | reconnect =>
      simp only [taskStep, place]
      exact ⟨_, _, rfl, rank_lt (by simp)⟩
  | shutdownCheck =>
      simp only [taskStep, place, sent, if_true]
      exact ⟨_, _, rfl, rank_lt (by simp)⟩
  | prePoll =>
      simp only [taskStep, place]
      split
      · exact ⟨_, _, rfl, rank_lt (by simp)⟩
      · refine ⟨_, _, rfl, ?_⟩
        dsimp only
        split_ifs <;> exact rank_lt (by simp)
  | skipWait =>
      simp only [taskStep, place, changed]
      split_ifs <;> exact ⟨_, _, rfl, rank_lt (by simp)⟩
  | read =>
      simp only [taskStep, place]
      split <;> exact ⟨_, _, rfl, rank_lt (by simp)⟩
  | results read rest =>
      cases rest with
      | nil =>
          simp only [taskStep, place]
          exact ⟨_, _, rfl, rank_lt (by simp)⟩
      | cons entry rest =>
          simp only [taskStep, place]
          exact ⟨_, _, rfl, rank_resultStep t _ _ _ _ _⟩
  | endWait =>
      simp only [taskStep, place, changed, sent]
      split_ifs <;> exact ⟨_, _, rfl, rank_lt (by simp)⟩
  | reconnectConnect =>
      simp only [taskStep, place]
      split
      · exact ⟨_, _, rfl, rank_afterConnect t _ _ rfl⟩
      · exact ⟨_, _, rfl, rank_lt (by simp)⟩
  | reconnectInitWrites =>
      simp only [taskStep, place]
      split <;> exact ⟨_, _, rfl, rank_lt (by simp)⟩
  | returned path' => exact absurd place (path path')
  | panicked cause' => exact absurd place (cause cause')

end Collector

namespace Otlp
open Lib Config

def Pc.rank : Pc → Nat ×ₗ Nat
  | .stopped => toLex (0, 0)
  | .shutdown => toLex (1, 0)
  | .replaceInternal flush _ => toLex (if flush then 2 else 9, 0)
  | .registerInternal flush _ rest => toLex (if flush then 3 else 10, rest.length)
  | .internal flush => toLex (if flush then 4 else 11, 0)
  | .replace flush _ => toLex (if flush then 5 else 12, 0)
  | .register flush _ rest => toLex (if flush then 6 else 13, rest.length)
  | .snapshot flush => toLex (if flush then 7 else 14, 0)
  | .waiting => toLex (8, 0)
  | .start => toLex (15, 0)

theorem cancelled_advances (config : OtlpExporterConfig) (env : Env) (wake : env.wake = .cancelled) {s : State}
    (running : s.pc ≠ .stopped) :
    ∃ next events, taskStep config env s = some (next, events) ∧ next.pc.rank < s.pc.rank := by
  cases place : s.pc with
  | start =>
      simp only [taskStep, place]
      split
      · exact ⟨_, _, rfl, rank_lt (by simp)⟩
      · refine ⟨_, _, rfl, ?_⟩
        dsimp only
        split_ifs <;> exact rank_lt (by simp)
  | waiting =>
      simp only [taskStep, place, wake]
      exact ⟨_, _, rfl, rank_lt (by simp)⟩
  | snapshot flush =>
      simp only [taskStep, place]
      cases flush
      · split_ifs <;> exact ⟨_, _, rfl, rank_lt (by simp)⟩
      · exact ⟨_, _, rfl, rank_lt (by simp)⟩
  | register flush metrics rest =>
      cases rest <;> simp only [taskStep, place] <;> cases flush <;> exact ⟨_, _, rfl, rank_lt (by simp)⟩
  | replace flush metrics =>
      simp only [taskStep, place]
      cases flush <;> exact ⟨_, _, rfl, rank_lt (by simp)⟩
  | internal flush =>
      simp only [taskStep, place]
      cases flush <;> split <;> exact ⟨_, _, rfl, rank_lt (by simp)⟩
  | registerInternal flush values rest =>
      cases rest <;> simp only [taskStep, place] <;> cases flush <;> exact ⟨_, _, rfl, rank_lt (by simp)⟩
  | replaceInternal flush values =>
      simp only [taskStep, place]
      cases flush <;> exact ⟨_, _, rfl, rank_lt (by simp)⟩
  | shutdown =>
      simp only [taskStep, place]
      exact ⟨_, _, rfl, rank_lt (by simp)⟩
  | stopped => exact absurd place running

end Otlp

namespace Mqtt
open Lib Config

def Pc.rank : Pc → Nat ×ₗ Nat
  | .returned => toLex (0, 0)
  | .leaving => toLex (1, 0)
  | .disconnecting => toLex (2, 0)
  | .farewell => toLex (3, 0)
  | .joining _ | .waiting _ => toLex (4, 0)
  | .serving _ => toLex (5, 0)
  | .publishing _ rest => toLex (6, rest.length)
  | .announcing _ => toLex (7, 0)
  | .connecting _ => toLex (8, 0)
  | .start => toLex (9, 0)

theorem send_ended {c : Connection} (gone : c.eventLoop = .ended) (request : Request) :
    c.send request = some (false, c) := by
  rw [Connection.send, if_pos gone]

theorem cancelled_advances (config : MqttExporterConfig) (env : Env) (wake : env.wake = .cancelled) {s : State}
    (cancelled : s.cancelled = true) (gone : s.connection.eventLoop = .ended) (running : s.pc ≠ .returned) :
    ∃ next events, mainStep config env s = some (next, events) ∧ next.pc.rank < s.pc.rank := by
  cases place : s.pc with
  | start =>
      simp only [mainStep, place]
      split
      · exact ⟨_, _, rfl, rank_lt (by simp)⟩
      · split <;> exact ⟨_, _, rfl, rank_lt (by simp)⟩
  | connecting options =>
      simp only [mainStep, place]
      exact ⟨_, _, rfl, rank_lt (by simp)⟩
  | announcing options | farewell | disconnecting =>
      simp only [mainStep, place, send_ended gone, Option.map_some]
      exact ⟨_, _, rfl, rank_lt (by simp)⟩
  | serving options | waiting options =>
      simp only [mainStep, place, wake, cancelled, if_true]
      exact ⟨_, _, rfl, rank_lt (by simp)⟩
  | publishing options rest =>
      cases rest <;> simp only [mainStep, place, send_ended gone, Option.map_some] <;>
        exact ⟨_, _, rfl, rank_lt (by simp)⟩
  | joining options =>
      simp only [mainStep, place, gone, cancelled]
      exact ⟨_, _, rfl, rank_lt (by simp)⟩
  | leaving =>
      simp only [mainStep, place, gone, if_true]
      exact ⟨_, _, rfl, rank_lt (by simp)⟩
  | returned => exact absurd place running

theorem eventLoop_ends (config : MqttExporterConfig) {s : State} (cancelled : s.cancelled = true)
    (there : s.connection.eventLoop ≠ .ended) :
    ∃ input next, step config s input = some (next, []) ∧ (∀ env, input ≠ .main env) ∧ input ≠ .cancel ∧
      next = { s with connection := { s.connection with eventLoop := .ended } } := by
  cases loop : s.connection.eventLoop with
  | running => exact ⟨.eventLoopCancelled, _, if_pos ⟨cancelled, loop⟩, by simp, by simp, rfl⟩
  | failed => exact ⟨.eventLoopEnded, _, if_pos loop, by simp, by simp, rfl⟩
  | ended => exact absurd loop there

end Mqtt

namespace Daemon
open Lib Config

variable {n : Nat} {σ : Fin n → Type} {config : Config} {t : ∀ i, Collector.Task (σ i)} {worlds : ∀ i, σ i}
  {startTime : Internal.Instant} {trace : List (Event σ)} {s s' : System σ} {input : Input n}
  {events : List (Event σ)}

structure Live (config : Config) (s : System σ) : Prop where
  ordered : Ordered s
  fresh : SharedMap.Fresh s.store
  otlp : s.otlp.isSome = true → config.exporters.otlp.isSome = true
  mqtt : s.mqtt.isSome = true → config.exporters.mqtt.isSome = true
  serving : s.store.walks .mqtt ≠ none → Asks s .mqtt

theorem walks_setWalk {walker other : Walker} (different : other ≠ walker)
    (w : Option (Walk String (List MetricValue))) :
    (s.store.setWalk walker w).walks other = s.store.walks other := by
  simp [SharedMap.setWalk, different]

theorem serving_step (serving : s.store.walks .mqtt ≠ none → Asks s .mqtt)
    (step : Step config t s input s' events) : s'.store.walks .mqtt ≠ none → Asks s' .mqtt := by
  cases step with
  | cancelled place =>
      intro walking
      obtain ⟨own, present, options, place⟩ := serving walking
      exact ⟨{ own with cancelled := true }, by simp [Option.mem_def.mp present], options, place⟩
  | @walkStarted input walker idle asked =>
      intro walking
      by_cases same : .mqtt = walker
      · exact same ▸ asked
      · exact serving (by rwa [walks_setWalk same] at walking)
  | @visited walker collectorName w walking fresh =>
      intro walking'
      by_cases same : .mqtt = walker
      · exact serving (by simp [same, walking])
      · exact serving (by rwa [walks_setWalk same] at walking')
  | @scraped id stats now w place walking done =>
      intro walking'
      exact serving (by rwa [System.walkless, walks_setWalk (by simp)] at walking')
  | @otlpWalked config' env own next shown flush w given present place walking done action =>
      intro walking'
      exact serving (by rwa [System.exported, System.walkless, walks_setWalk (by simp)] at walking')
  | @mqtt config' input own next shown given present elsewhere alone free action =>
      intro walking
      obtain ⟨own', present', options, place⟩ := serving walking
      obtain rfl : own = own' := Option.some.inj (present.symm.trans present')
      cases Mqtt.step_cases action
      case polled | eventLoopStopped | eventLoopEnded => exact ⟨_, rfl, options, place⟩
      case cancelled => exact absurd rfl alone
      all_goals exact absurd (free ⟨_, rfl⟩) walking
  | mqttWalked => exact fun walking => absurd (by simp [System.walkless, SharedMap.setWalk]) walking
  | _ => exact serving

theorem exporters_step (step : Step config t s input s' events) :
    (s'.otlp.isSome = true → s.otlp.isSome = true) ∧ (s'.mqtt.isSome = true → s.mqtt.isSome = true) := by
  cases step with
  | cancelled => simp
  | otlp given present | otlpWalked given present => exact ⟨fun _ => by simp [present], id⟩
  | mqtt given present | mqttWalked given present => exact ⟨id, fun _ => by simp [present]⟩
  | _ => exact ⟨id, id⟩

theorem live_step (live : Live config s) (action : step config t s input = some (s', events)) :
    Live config s' := by
  have step : Step config t s input s' events := step_cases action
  have exporters := exporters_step step
  refine ⟨ordered_step live.ordered step, ?_, fun there => live.otlp (exporters.1 there),
    fun there => live.mqtt (exporters.2 there), serving_step live.serving step⟩
  rcases store_follows step with ⟨-, same⟩ | ⟨access, follows⟩
  · rw [same]
    exact live.fresh
  · exact SharedMap.fresh_step live.fresh (SharedMap.step_cases follows)

theorem live_run (run : (machine config t).Run (spawned config t worlds startTime) trace s) : Live config s := by
  have begins : Live config (spawned config t worlds startTime) := by
    refine ⟨ordered_spawned config t worlds startTime, ?_, ?_, ?_, fun walking => absurd rfl walking⟩
    · intro walker w walking
      cases walking
    · cases given : config.exporters.otlp <;> simp [spawned, given]
    · cases given : config.exporters.mqtt <;> simp [spawned, given]
  exact run.invariant (P := fun _ s => Live config s) begins fun _ live action => live_step live action

def Untimed (_ : System σ) (input : Input n) : Prop := input ≠ .main true

theorem reach_once {goal : System σ → Prop} (action : step config t s input = some (s', events))
    (free : input ≠ .main true) (met : goal s') : (machine config t).CanReach Untimed s goal :=
  Machine.CanReach.once (M := machine config t) action free met

theorem reach_step {goal : System σ → Prop} (action : step config t s input = some (s', events))
    (free : input ≠ .main true) (rest : (machine config t).CanReach Untimed s' goal) :
    (machine config t).CanReach Untimed s goal :=
  Machine.CanReach.step (M := machine config t) action free rest

theorem reach_live {goal : System σ → Prop} (live : Live config s)
    (reach : (machine config t).CanReach Untimed s goal) :
    (machine config t).CanReach Untimed s fun s' => Live config s' ∧ goal s' :=
  reach.keeps (fun live action => live_step live action) live

theorem collector_moves {i : Fin n} {env : Collector.Env} {next : Collector.State (σ i)}
    {own : List (Collector.Event (σ i))}
    (action : Collector.taskStep (t i) env (s.view i) = some (next, own)) :
    step config t s (.collector i env) = some (s.moved i next, own.map (.collector i)) := by
  simp only [step, System.collectorStep, action, Option.map_some]
  rfl

theorem collector_returns (i : Fin n) (sent : (s.collectors i).shutdown = true) :
    (machine config t).CanReach Untimed s fun s' =>
      s'.main = s.main ∧ returned (s'.collectors i).pc = true ∧ ∀ j ≠ i, s'.collectors j = s.collectors j := by
  refine .descends (fun s' => (s'.collectors i).pc.rank)
    (fun s' => s'.main = s.main ∧ (s'.collectors i).shutdown = true ∧ ∀ j ≠ i, s'.collectors j = s.collectors j) ?_
    ⟨rfl, sent, fun _ _ => rfl⟩
  rintro s' ⟨main, sent', others⟩
  cases done : returned (s'.collectors i).pc with
  | true => exact .inl ⟨main, rfl, others⟩
  | false =>
      have going (pc : Collector.Pc) (final : returned pc = true) : (s'.view i).pc ≠ pc := by
        intro same
        have here : (s'.collectors i).pc = pc := same
        rw [here, final] at done
        cases done
      obtain ⟨next, own, action, lower⟩ := Collector.flagged_advances (t i) (s := s'.view i) sent'
        (fun path => going _ rfl) (fun cause => going _ rfl)
      refine .inr (reach_once (collector_moves action) (by simp) ⟨⟨main, ?_, ?_⟩, ?_⟩)
      · rw [System.moved_self, flag_kept action, sent']
      · intro j other
        rw [System.moved_other s' other, others j other]
      · rw [System.moved_self]
        exact lower

theorem collectors_return (sent : ∀ i, (s.collectors i).shutdown = true) :
    (machine config t).CanReach Untimed s fun s' => s'.main = s.main ∧ AllReturned s' := by
  have first (k : Nat) (within : k ≤ n) : (machine config t).CanReach Untimed s fun s' =>
      s'.main = s.main ∧ (∀ i : Fin n, i.val < k → returned (s'.collectors i).pc = true) ∧
        ∀ i : Fin n, k ≤ i.val → s'.collectors i = s.collectors i := by
    induction k with
    | zero => exact .here ⟨rfl, fun i below => absurd below (Nat.not_lt_zero _), fun _ _ => rfl⟩
    | succ k ih =>
        refine (ih (Nat.le_of_succ_le within)).next ?_
        rintro s₁ ⟨main, before, after⟩
        have here := after ⟨k, within⟩ (Nat.le_refl k)
        refine (collector_returns ⟨k, within⟩ (by rw [here, sent])).mono ?_
        rintro s₂ ⟨main', ended, others⟩
        refine ⟨main'.trans main, ?_, ?_⟩
        · intro i below
          by_cases same : i = ⟨k, within⟩
          · exact same ▸ ended
          · have earlier : i.val < k := by
              have different : i.val ≠ k := fun equal => same (Fin.ext equal)
              omega
            rw [others i same, before i earlier]
        · intro i above
          have different : i ≠ ⟨k, within⟩ := fun equal => by simp [equal] at above
          rw [others i different, after i (Nat.le_of_succ_le above)]
  refine (first n (Nat.le_refl n)).mono ?_
  rintro s' ⟨main, all, -⟩
  exact ⟨main, fun i => all i i.isLt⟩

theorem setWalk_same {walker : Walker} {w : Option (Walk String (List MetricValue))}
    (walking : s.store.walks walker = w) : s.store.setWalk walker w = s.store := by
  rw [SharedMap.setWalk, ← walking, Function.update_eq_self]

theorem walk_ends (live : Live config s) {walker : Walker} {w : Walk String (List MetricValue)}
    (walking : s.store.walks walker = some w) :
    (machine config t).CanReach Untimed s fun s' =>
      ∃ w', s' = { s with store := s.store.setWalk walker (some w') } ∧ w'.due = [] := by
  refine .descends (fun s' => ((s'.store.walks walker).map (·.due.length)).getD 0)
    (fun s' => Live config s' ∧ ∃ w', s' = { s with store := s.store.setWalk walker (some w') }) ?_
    ⟨live, w, by rw [setWalk_same walking]⟩
  rintro _ ⟨live', w', rfl⟩
  have here : (s.store.setWalk walker (some w')).walks walker = some w' := by simp [SharedMap.setWalk]
  cases due : w'.due with
  | nil => exact .inl ⟨w', rfl, due⟩
  | cons name rest =>
      have fresh : name ∉ w'.visited := live'.fresh walker w' here name (by simp [due])
      have action : step config t { s with store := s.store.setWalk walker (some w') } (.visit walker name) =
          some ({ s with store := s.store.setWalk walker (some (w'.visit s.store.map name)) }, []) := by
        simp [step, System.visit, StoreAccess.step, SharedMap.setWalk, fresh]
      refine .inr (reach_once action (by simp) ⟨⟨live_step live' action, _, rfl⟩, ?_⟩)
      have shorter : ((w'.due).filter (· ≠ name)).length < w'.due.length := by
        rw [due, List.filter_cons_of_neg (by simp)]
        exact Nat.lt_succ_of_le (List.length_filter_le _ _)
      simpa [SharedMap.setWalk, Walk.visit] using shorter

theorem setWalk_again (walker : Walker) (w w' : Option (Walk String (List MetricValue))) :
    (s.store.setWalk walker w).setWalk walker w' = s.store.setWalk walker w' := by
  simp [SharedMap.setWalk]

theorem walk_found (live : Live config s) {walker : Walker} {input : Input n} {goal : System σ → Prop}
    {found : MetricStore → System σ → Option (System σ × List (Event σ))}
    (walks : ∀ store, step config t { s with store } input = { s with store }.walk walker found)
    (free : input ≠ .main true)
    (goes : ∀ store, ∃ s' events,
      found store { s with store := s.store.setWalk walker none } = some (s', events) ∧ goal s') :
    (machine config t).CanReach Untimed s goal := by
  have walking : (machine config t).CanReach Untimed s fun s₁ =>
      ∃ w, s₁ = { s with store := s.store.setWalk walker (some w) } := by
    cases idle : s.store.walks walker with
    | none =>
        have action : step config t s input =
            some ({ s with store := s.store.setWalk walker (some (.start s.store.map)) }, [.walkStarted walker]) := by
          rw [walks s.store, System.walk, idle]
        exact reach_once action free ⟨_, rfl⟩
    | some w => exact .here ⟨w, by rw [setWalk_same idle]⟩
  refine (reach_live live walking).next ?_
  rintro _ ⟨live₁, w, rfl⟩
  have open_ : (s.store.setWalk walker (some w)).walks walker = some w := by simp [SharedMap.setWalk]
  refine (walk_ends live₁ open_).next ?_
  rintro _ ⟨w', rfl, done⟩
  rw [setWalk_again]
  obtain ⟨s', events, goes, met⟩ := goes w'.collected.toAList
  have here : (s.store.setWalk walker (some w')).walks walker = some w' := by simp [SharedMap.setWalk]
  have action : step config t { s with store := s.store.setWalk walker (some w') } input =
      some (s', .walked walker w'.collected :: events) := by
    rw [walks, System.walk, here]
    simp only [done, if_true, setWalk_again, goes, Option.map_some]
  exact reach_once action free met

theorem handler_answers (live : Live config s) {id : Nat} {handler : Handler}
    (present : s.handlers.lookup id = some handler) :
    (machine config t).CanReach Untimed s fun s' =>
      s'.main = s.main ∧ s'.prometheus = s.prometheus ∧ s'.handlers.entries.length < s.handlers.entries.length := by
  have walked {s : System σ} {store : MetricStore} (present : s.handlers.lookup id = some (.walked store)) :
      (machine config t).CanReach Untimed s fun s' => s'.main = s.main ∧ s'.prometheus = s.prometheus ∧
        s'.handlers.entries.length < s.handlers.entries.length := by
    have action : step config t s (.scrape id [] 0) =
        some ({ s with handlers := s.handlers.erase id }, [.response id ⟨store, s.internal, [], 0⟩]) := by
      simp only [step, System.scrapeStep, present]
    have length := HashMap.countP_erase (fun _ => true) present
    simp only [List.countP_true, if_true] at length
    exact reach_once action (by simp) ⟨rfl, rfl, Nat.lt_of_succ_le (Nat.le_of_eq length)⟩
  have again {s : System σ} {handler next : Handler} (present : s.handlers.lookup id = some handler) :
      (s.handlers.insert id next).entries.length = s.handlers.entries.length := by
    have length := HashMap.countP_insert_again (fun _ => true) present next
    simpa using length
  have counted {s : System σ} (live : Live config s) (present : s.handlers.lookup id = some .counted) :
      (machine config t).CanReach Untimed s fun s' => s'.main = s.main ∧ s'.prometheus = s.prometheus ∧
        s'.handlers.entries.length < s.handlers.entries.length := by
    have found : (machine config t).CanReach Untimed s fun s' => s'.main = s.main ∧ s'.prometheus = s.prometheus ∧
        ∃ store, s'.handlers = s.handlers.insert id (.walked store) := by
      have walks (store : StoreAccess.Shared Walker) : step config t { s with store } (.scrape id [] 0) =
          { s with store }.walk (.scrape id) fun store s =>
            some ({ s with handlers := s.handlers.insert id (.walked store) }, []) := by
        simp only [step, System.scrapeStep, present]
      exact walk_found live walks (by simp) fun store => ⟨_, _, rfl, rfl, rfl, store, rfl⟩
    refine found.next ?_
    rintro s₁ ⟨main, prometheus, store, handlers⟩
    refine (walked (by rw [handlers, AList.lookup_insert])).mono ?_
    rintro s₂ ⟨main', prometheus', fewer⟩
    rw [handlers, again present] at fewer
    exact ⟨main'.trans main, prometheus'.trans prometheus, fewer⟩
  cases handler with
  | entered =>
      have action : step config t s (.scrape id [] 0) =
          some ({ s with internal := s.countScrape, handlers := s.handlers.insert id .counted }, []) := by
        simp only [step, System.scrapeStep, present]
      refine reach_step action (by simp) ?_
      refine (counted (live_step live action) (AList.lookup_insert _)).mono ?_
      rintro s' ⟨main, prometheus, fewer⟩
      rw [again present] at fewer
      exact ⟨main, prometheus, fewer⟩
  | counted => exact counted live present
  | walked store => exact walked present

theorem handlers_answer (live : Live config s) (place : s.prometheus = some .draining) :
    (machine config t).CanReach Untimed s fun s' =>
      s'.main = s.main ∧ s'.prometheus = some .draining ∧ s'.handlers.entries = [] := by
  refine .descends (fun s' => s'.handlers.entries.length)
    (fun s' => Live config s' ∧ s'.main = s.main ∧ s'.prometheus = some .draining) ?_ ⟨live, rfl, place⟩
  rintro s' ⟨live', main, place'⟩
  cases left : s'.handlers.entries with
  | nil => exact .inl ⟨main, place', rfl⟩
  | cons entry rest =>
      have present : s'.handlers.lookup entry.1 = some entry.2 := by
        apply AList.mem_lookup_iff.mpr
        rw [left]
        exact List.mem_cons_self
      refine .inr ((reach_live live' (handler_answers live' present)).mono ?_)
      rintro s'' ⟨live'', main', place'', fewer⟩
      rw [← left]
      exact ⟨⟨live'', main'.trans main, place''.trans place'⟩, fewer⟩

theorem server_stops (live : Live config s) (requested : s.main ≠ .serving) :
    (machine config t).CanReach Untimed s fun s' =>
      s'.main = s.main ∧ ∀ server ∈ s'.prometheus, server = .stopped := by
  have draining {s : System σ} (live : Live config s) (place : s.prometheus = some .draining) :
      (machine config t).CanReach Untimed s fun s' =>
        s'.main = s.main ∧ ∀ server ∈ s'.prometheus, server = .stopped := by
    refine (handlers_answer live place).next ?_
    rintro s' ⟨main, place', idle⟩
    have action : step config t s' .close = some ({ s' with prometheus := some .stopped }, [.serverStopped]) :=
      if_pos ⟨place', idle⟩
    exact reach_once action (by simp) ⟨main, by simp⟩
  have listening {s : System σ} (live : Live config s) (requested : s.main ≠ .serving)
      (place : s.prometheus = some .listening) :
      (machine config t).CanReach Untimed s fun s' =>
        s'.main = s.main ∧ ∀ server ∈ s'.prometheus, server = .stopped := by
    have action : step config t s .drain = some ({ s with prometheus := some .draining }, []) :=
      if_pos ⟨place, requested⟩
    exact reach_step action (by simp) (draining (live_step live action) rfl)
  cases place : s.prometheus with
  | none => exact .here ⟨rfl, by simp [place]⟩
  | some server =>
      cases server with
      | binding =>
          have action : step config t s (.bind true) = some ({ s with prometheus := some .listening }, []) :=
            if_pos place
          exact reach_step action (by simp) (listening (live_step live action) requested rfl)
      | listening => exact listening live requested place
      | draining => exact draining live place
      | stopped => exact .here ⟨rfl, by simp [place]⟩

theorem otlp_stops (live : Live config s) (requested : s.main ≠ .serving) :
    (machine config t).CanReach Untimed s fun s' => s'.main = s.main ∧ ∀ own ∈ s'.otlp, own.pc = .stopped := by
  refine .descends (fun s' => (s'.otlp.map (·.pc.rank)).getD (toLex (0, 0)))
    (fun s' => Live config s' ∧ s'.main = s.main) ?_ ⟨live, rfl⟩
  rintro s' ⟨live', main⟩
  cases present : s'.otlp with
  | none => exact .inl ⟨main, by simp⟩
  | some own =>
      by_cases stopped : own.pc = .stopped
      · exact .inl ⟨main, by simpa using stopped⟩
      · obtain ⟨otlp, given⟩ := Option.isSome_iff_exists.mp (live'.otlp (by simp [present]))
        -- one turn of the loop, with whatever the walk before it has found
        have turn (store : MetricStore) (s₁ : System σ) : ∃ s₂ events,
            s₁.otlpTask otlp { wake := .cancelled, store, stored := [] } own = some (s₂, events) ∧
              s₂.main = s₁.main ∧ (s₂.otlp.map (·.pc.rank)).getD (toLex (0, 0)) < own.pc.rank := by
          obtain ⟨next, shown, action, lower⟩ := Otlp.cancelled_advances otlp
            { wake := .cancelled, store, stored := [] } rfl
            (s := { own with internalMetrics := some s₁.internal }) stopped
          refine ⟨s₁.exported next, shown.map .otlp, ?_, rfl, lower⟩
          rw [System.otlpTask, action]
          rfl
        have goes : (machine config t).CanReach Untimed s' fun s₂ => s₂.main = s'.main ∧
            (s₂.otlp.map (·.pc.rank)).getD (toLex (0, 0)) < own.pc.rank := by
          by_cases walks : ∃ flush, own.pc = .snapshot flush
          · obtain ⟨flush, place⟩ := walks
            have asks (store : StoreAccess.Shared Walker) :
                step config t { s' with store } (.otlp { wake := .cancelled }) =
                  { s' with store }.walk .otlp fun store s =>
                    s.otlpTask otlp { wake := .cancelled, store, stored := [] } own := by
              simp only [step, given, present, System.otlpStep, place]
            refine walk_found live' asks (by simp) fun store => ?_
            obtain ⟨s₂, events, action, main', lower⟩ := turn store { s' with store := s'.store.setWalk .otlp none }
            exact ⟨s₂, events, action, main', lower⟩
          · obtain ⟨s₂, events, action, main', lower⟩ := turn ∅ s'
            have taken : step config t s' (.otlp { wake := .cancelled }) = some (s₂, events) := by
              have told : s'.main ≠ .serving := by rw [main]; exact requested
              simp only [step, given, present, System.otlpStep]
              split
              · exact absurd ⟨_, by assumption⟩ walks
              · rw [if_neg told, action]
              · exact action
            exact reach_once taken (by simp) ⟨main', lower⟩
        refine .inr ((reach_live live' goes).mono ?_)
        rintro s₂ ⟨live₂, main', lower⟩
        exact ⟨⟨live₂, main'.trans main⟩, lower⟩

theorem mqtt_unwalked (live : Live config s) :
    (machine config t).CanReach Untimed s fun s' => s'.main = s.main ∧ s'.store.walks .mqtt = none := by
  by_cases walking : s.store.walks .mqtt = none
  · exact .here ⟨rfl, walking⟩
  · obtain ⟨own, present, options, place⟩ := live.serving walking
    obtain ⟨mqtt, given⟩ := Option.isSome_iff_exists.mp (live.mqtt (by simp [Option.mem_def.mp present]))
    have asks (store : StoreAccess.Shared Walker) : step config t { s with store } (.mqtt (.main {})) =
        { s with store }.walk .mqtt fun store s => s.mqttTask mqtt (.main { store, stored := [] }) own := by
      simp only [step, given, Option.mem_def.mp present, System.mqttStep, System.mqttMain, place]
    refine walk_found live asks (by simp) fun store => ?_
    have action : ∃ next, Mqtt.step mqtt own (.main { store, stored := [] }) = some (next, []) :=
      ⟨_, by rw [Mqtt.step, Mqtt.mainStep, place]⟩
    obtain ⟨next, action⟩ := action
    refine ⟨{ s with store := s.store.setWalk .mqtt none, mqtt := some next }, [], ?_, rfl, ?_⟩
    · rw [System.mqttTask, action]
      rfl
    · simp [SharedMap.setWalk]

theorem mqtt_stops (live : Live config s) (requested : 1 ≤ s.main.place) :
    (machine config t).CanReach Untimed s fun s' => s'.main = s.main ∧ ∀ own ∈ s'.mqtt, own.pc = .returned := by
  refine (reach_live live (mqtt_unwalked live)).next ?_
  rintro s₁ ⟨live₁, main₁, idle₁⟩
  refine .descends (fun s' => toLex ((s'.mqtt.map (·.pc.rank)).getD (toLex (0, 0)),
      (s'.mqtt.map fun own => if own.connection.eventLoop = .ended then 0 else 1).getD 0))
    (fun s' => Live config s' ∧ s'.main = s.main ∧ s'.store.walks .mqtt = none) ?_ ⟨live₁, main₁, idle₁⟩
  rintro s' ⟨live', main, idle⟩
  cases present : s'.mqtt with
  | none => exact .inl ⟨main, by simp⟩
  | some own =>
      by_cases stopped : own.pc = .returned
      · exact .inl ⟨main, by simpa using stopped⟩
      · obtain ⟨mqtt, given⟩ := Option.isSome_iff_exists.mp (live'.mqtt (by simp [present]))
        have cancelled : own.cancelled = true :=
          live'.ordered.reached .cancelled (by rw [main]; exact requested) own present
        right
        by_cases gone : own.connection.eventLoop = .ended
        · obtain ⟨next, shown, action, lower⟩ := Mqtt.cancelled_advances mqtt
            { wake := .cancelled } rfl cancelled gone stopped
          have taken : step config t s' (.mqtt (.main { wake := .cancelled })) =
              some ({ s' with mqtt := some next }, shown.map .mqtt) := by
            simp only [step, given, present, System.mqttStep, System.mqttMain]
            split
            · rename_i slept
              cases slept
            · rw [idle, if_neg (by simp), System.mqttTask, Mqtt.step, action]
              rfl
          refine reach_once taken (by simp) ⟨⟨live_step live' taken, main, idle⟩, ?_⟩
          exact Prod.Lex.toLex_lt_toLex.mpr (.inl lower)
        · obtain ⟨input, next, action, notMain, notCancel, rfl⟩ := Mqtt.eventLoop_ends mqtt cancelled gone
          have taken : step config t s' (.mqtt input) =
              some ({ s' with mqtt := some { own with connection := { own.connection with eventLoop := .ended } } },
                []) := by
            have task : s'.mqttStep mqtt own input = s'.mqttTask mqtt input own := by
              cases input with
              | main env => exact absurd rfl (notMain env)
              | cancel => exact absurd rfl notCancel
              | _ => rfl
            simp only [step, given, present, task, System.mqttTask, action, Option.map_some, List.map_nil]
          refine reach_once taken (by simp) ⟨⟨live_step live' taken, main, idle⟩, ?_⟩
          exact Prod.Lex.toLex_lt_toLex.mpr (.inr ⟨rfl, by simp [gone]⟩)

theorem all_of_mem {α : Type} {o : Option α} {p : α → Bool} (each : ∀ a ∈ o, p a = true) : o.all p = true := by
  cases o with
  | none => rfl
  | some a => exact each a rfl

theorem main_advances (live : Live config s) (unfinished : s.main ≠ .done) :
    (machine config t).CanReach Untimed s fun s' => Live config s' ∧ s.main.place < s'.main.place := by
  apply reach_live live
  cases place : s.main with
  | serving =>
      have action : step config t s (.main false) =
          some ({ s with main := .cancelled, mqtt := s.mqtt.map fun mqtt => { mqtt with cancelled := true } },
            [.exportersCancelled]) := by
        rw [step, System.mainStep, place]
      exact reach_once action (by simp) (by simp [Main.place])
  | cancelled =>
      have action : step config t s (.main false) =
          some ({ s with main := .signalled, collectors := fun i => { s.collectors i with shutdown := true } },
            [.flagSent]) := by
        rw [step, System.mainStep, place]
      exact reach_once action (by simp) (by simp [Main.place])
  | signalled =>
      have sent := live.ordered.reached .signalled (by simp [place])
      refine (collectors_return sent).next ?_
      rintro s' ⟨main, all⟩
      have action : step config t s' (.main false) =
          some ({ s' with
              main := .collectorsAwaited, collectors := fun i => { s'.collectors i with senderDropped := true } },
            [.collectorsAwaited false]) := by
        have ready : (false || s'.collectorsReturned) = true := decide_eq_true all
        rw [step, System.mainStep, main, place]
        exact if_pos ready
      exact reach_once action (by simp) (by simp [Main.place])
  | collectorsAwaited =>
      refine (server_stops live (by simp [place])).next ?_
      rintro s' ⟨main, stopped⟩
      have action : step config t s' (.main false) = some ({ s' with main := .prometheusJoined }, []) := by
        rw [step, System.mainStep, main, place]
        exact if_pos (all_of_mem fun server present => decide_eq_true (stopped server present))
      exact reach_once action (by simp) (by simp [Main.place])
  | prometheusJoined =>
      refine (otlp_stops live (by simp [place])).next ?_
      rintro s' ⟨main, stopped⟩
      have action : step config t s' (.main false) = some ({ s' with main := .otlpJoined }, []) := by
        rw [step, System.mainStep, main, place]
        exact if_pos (all_of_mem fun own present => by rw [otlpFinished, stopped own present])
      exact reach_once action (by simp) (by simp [Main.place])
  | otlpJoined =>
      refine (mqtt_stops live (by simp [place, Main.place])).next ?_
      rintro s' ⟨main, stopped⟩
      have action : step config t s' (.main false) = some ({ s' with main := .done }, [.complete]) := by
        rw [step, System.mainStep, main, place]
        exact if_pos (all_of_mem fun own present => by rw [mqttFinished, stopped own present])
      exact reach_once action (by simp) (by simp [Main.place])
  | done => exact absurd place unfinished

/-- From every state that the daemon can be in, whatever each task is in the middle of, the shutdown can be completed,
and without cutting the wait for the collectors short. -/
theorem shutdown_completes (run : (machine config t).Run (spawned config t worlds startTime) trace s) :
    (machine config t).CanReach Untimed s fun s' => s'.main = .done := by
  refine .descends (fun s' => 6 - s'.main.place) (fun s' => Live config s') ?_ (live_run run)
  intro s' live
  by_cases finished : s'.main = .done
  · exact .inl finished
  · refine .inr ((main_advances live finished).mono ?_)
    rintro s'' ⟨live', further⟩
    refine ⟨live', ?_⟩
    have bound : s''.main.place ≤ 6 := by cases s''.main <;> simp [Main.place]
    omega

theorem shutdown_completes_plant :
    ∃ (trace : List (Event fun _ : Fin 1 => Collector.Script)) (s : System fun _ : Fin 1 => Collector.Script),
      .accepted 0 ∈ trace ∧ s.main = .serving ∧
        (machine plantConfig plantTask).CanReach Untimed s fun s' => s'.main = .done := by
  have executed : ∃ e₁ e₂ e₃ e₄ e₅ e₆ e₇ s,
      (machine plantConfig plantTask).exec plantStart
          (plantCycle ++ [.bind true, .accept, .scrape 0 [] 0, .scrape 0 [] 0]) =
        some ([e₁, e₂, e₃, e₄, e₅, e₆, .accepted 0, e₇], s) ∧ s.main = .serving :=
    ⟨_, _, _, _, _, _, _, _, rfl, rfl⟩
  obtain ⟨e₁, e₂, e₃, e₄, e₅, e₆, e₇, s, executed, serving⟩ := executed
  exact ⟨[e₁, e₂, e₃, e₄, e₅, e₆, .accepted 0, e₇], s, by simp, serving,
    shutdown_completes (Machine.exec_run executed)⟩

end Daemon
end BusExporter
