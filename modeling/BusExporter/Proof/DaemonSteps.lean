import BusExporter.Model.Daemon

/-! What one step of the daemon can do. -/

namespace BusExporter.Daemon
open Lib Config

variable {n : Nat} {σ : Fin n → Type} (config : Config) (t : ∀ i, Collector.Task (σ i))

def System.moved (s : System σ) (i : Fin n) (next : Collector.State (σ i)) : System σ :=
  { s with
    collectors := Function.update s.collectors i next
    store := { s.store with map := next.store }
    internal := { s.internal with collectorStats := next.internal.getD s.internal.collectorStats } }

def System.walkless (s : System σ) (walker : Walker) : System σ :=
  { s with store := s.store.setWalk walker none }

def System.exported (s : System σ) (next : Otlp.State) : System σ :=
  { s with otlp := some next, internal := next.internalMetrics.getD s.internal }

@[simp] theorem System.moved_self (s : System σ) (i : Fin n) (next : Collector.State (σ i)) :
    (s.moved i next).collectors i = next := by
  simp [System.moved]

theorem System.moved_other (s : System σ) {i j : Fin n} (other : j ≠ i) (next : Collector.State (σ i)) :
    (s.moved i next).collectors j = s.collectors j := by
  simp [System.moved, other]

def Asks (s : System σ) : Walker → Prop
  | .scrape id => s.handlers.lookup id = some .counted
  | .otlp => ∃ own ∈ s.otlp, ∃ flush, own.pc = .snapshot flush
  | .mqtt => ∃ own ∈ s.mqtt, ∃ options, own.pc = .serving options

inductive Step (s : System σ) : Input n → System σ → List (Event σ) → Prop
  | cancelled {timedOut : Bool} (place : s.main = .serving) :
      Step s (.main timedOut)
        { s with main := .cancelled, mqtt := s.mqtt.map fun mqtt => { mqtt with cancelled := true } }
        [.exportersCancelled]
  | signalled {timedOut : Bool} (place : s.main = .cancelled) :
      Step s (.main timedOut)
        { s with main := .signalled, collectors := fun i => { s.collectors i with shutdown := true } } [.flagSent]
  | awaited {timedOut : Bool} (place : s.main = .signalled)
      (ended : timedOut = true ∨ ∀ i, returned (s.collectors i).pc = true) :
      Step s (.main timedOut)
        { s with
          main := .collectorsAwaited, collectors := fun i => { s.collectors i with senderDropped := true } }
        [.collectorsAwaited timedOut]
  | prometheusJoined {timedOut : Bool} (place : s.main = .collectorsAwaited)
      (stopped : s.prometheus.all (· = .stopped) = true) :
      Step s (.main timedOut) { s with main := .prometheusJoined } []
  | otlpJoined {timedOut : Bool} (place : s.main = .prometheusJoined) (stopped : s.otlp.all otlpFinished = true) :
      Step s (.main timedOut) { s with main := .otlpJoined } []
  | mqttJoined {timedOut : Bool} (place : s.main = .otlpJoined) (stopped : s.mqtt.all mqttFinished = true) :
      Step s (.main timedOut) { s with main := .done } [.complete]
  | collector {i : Fin n} {env : Collector.Env} {next : Collector.State (σ i)} {own : List (Collector.Event (σ i))}
      (action : Collector.taskStep (t i) env (s.view i) = some (next, own)) :
      Step s (.collector i env) (s.moved i next) (own.map (.collector i))
  | bound (place : s.prometheus = some .binding) :
      Step s (.bind true) { s with prometheus := some .listening } []
  | unbound (place : s.prometheus = some .binding) :
      Step s (.bind false) { s with prometheus := some .stopped } [.serverStopped]
  | accepted (place : s.prometheus = some .listening) :
      Step s .accept { s with accepted := s.accepted + 1, handlers := s.handlers.insert s.accepted .entered }
        [.accepted s.accepted]
  | drained (place : s.prometheus = some .listening) (requested : s.main ≠ .serving) :
      Step s .drain { s with prometheus := some .draining } []
  | closed (place : s.prometheus = some .draining) (idle : s.handlers.entries = []) :
      Step s .close { s with prometheus := some .stopped } [.serverStopped]
  | counted {id : Nat} {stats : RandomState} {now : Internal.Instant} (place : s.handlers.lookup id = some .entered) :
      Step s (.scrape id stats now) { s with internal := s.countScrape, handlers := s.handlers.insert id .counted } []
  | walkStarted {input : Input n} {walker : Walker} (idle : s.store.walks walker = none)
      (asked : Asks s walker) :
      Step s input { s with store := s.store.setWalk walker (some (.start s.store.map)) } [.walkStarted walker]
  | visited {walker : Walker} {collectorName : String} {w : Walk String (List MetricValue)}
      (walking : s.store.walks walker = some w) (fresh : collectorName ∉ w.visited) :
      Step s (.visit walker collectorName)
        { s with store := s.store.setWalk walker (some (w.visit s.store.map collectorName)) } []
  | scraped {id : Nat} {stats : RandomState} {now : Internal.Instant} {w : Walk String (List MetricValue)}
      (place : s.handlers.lookup id = some .counted)
      (walking : s.store.walks (.scrape id) = some w) (done : w.due = []) :
      Step s (.scrape id stats now)
        { s.walkless (.scrape id) with handlers := s.handlers.insert id (.walked w.collected.toAList) }
        [.walked (.scrape id) w.collected]
  | responded {id : Nat} {stats : RandomState} {now : Internal.Instant} {store : MetricStore}
      (place : s.handlers.lookup id = some (.walked store)) :
      Step s (.scrape id stats now) { s with handlers := s.handlers.erase id }
        [.response id ⟨store, s.internal, stats, now⟩]
  | otlp {otlp : OtlpExporterConfig} {env : Otlp.Env} {own next : Otlp.State} {events : List Otlp.Event}
      (given : config.exporters.otlp = some otlp) (present : s.otlp = some own)
      (elsewhere : ∀ flush, own.pc ≠ .snapshot flush)
      (requested : env.wake = .cancelled → own.pc = .waiting → s.main ≠ .serving)
      (action : Otlp.taskStep otlp env { own with internalMetrics := some s.internal } = some (next, events)) :
      Step s (.otlp env) (s.exported next) (events.map .otlp)
  | otlpWalked {otlp : OtlpExporterConfig} {env : Otlp.Env} {own next : Otlp.State} {events : List Otlp.Event}
      {flush : Bool} {w : Walk String (List MetricValue)} (given : config.exporters.otlp = some otlp)
      (present : s.otlp = some own) (place : own.pc = .snapshot flush)
      (walking : s.store.walks .otlp = some w) (done : w.due = [])
      (action : Otlp.taskStep otlp { env with store := w.collected.toAList, stored := [] }
        { own with internalMetrics := some s.internal } = some (next, events)) :
      Step s (.otlp env) ((s.walkless .otlp).exported next) (.walked .otlp w.collected :: events.map .otlp)
  | mqtt {mqtt : MqttExporterConfig} {input : Mqtt.Input} {own next : Mqtt.State} {events : List Mqtt.Event}
      (given : config.exporters.mqtt = some mqtt) (present : s.mqtt = some own)
      (elsewhere : ∀ env options, input = .main env → own.pc = .serving options → env.wake ≠ .slept)
      (alone : input ≠ .cancel)
      (free : (∃ env, input = .main env) → s.store.walks .mqtt = none)
      (action : Mqtt.step mqtt own input = some (next, events)) :
      Step s (.mqtt input) { s with mqtt := some next } (events.map .mqtt)
  | mqttWalked {mqtt : MqttExporterConfig} {env : Mqtt.Env} {own next : Mqtt.State} {events : List Mqtt.Event}
      {options : Mqtt.MqttOptions} {w : Walk String (List MetricValue)}
      (given : config.exporters.mqtt = some mqtt) (present : s.mqtt = some own) (place : own.pc = .serving options)
      (woken : env.wake = .slept) (walking : s.store.walks .mqtt = some w) (done : w.due = [])
      (action : Mqtt.step mqtt own (.main { env with store := w.collected.toAList, stored := [] }) =
        some (next, events)) :
      Step s (.mqtt (.main env)) { s.walkless .mqtt with mqtt := some next }
        (.walked .mqtt w.collected :: events.map .mqtt)

variable {config t} {s s' : System σ} {events : List (Event σ)}

theorem walk_cases {walker : Walker} {found : MetricStore → System σ → Option (System σ × List (Event σ))}
    (action : s.walk walker found = some (s', events)) :
    (s.store.walks walker = none ∧
        s' = { s with store := s.store.setWalk walker (some (.start s.store.map)) } ∧
        events = [.walkStarted walker]) ∨
      ∃ w rest, s.store.walks walker = some w ∧ w.due = [] ∧
        found w.collected.toAList (s.walkless walker) = some (s', rest) ∧
        events = .walked walker w.collected :: rest := by
  unfold System.walk at action
  split at action
  · rename_i idle
    cases action
    exact .inl ⟨idle, rfl, rfl⟩
  · rename_i w walking
    split_ifs at action with done
    obtain ⟨⟨next, rest⟩, goes, same⟩ := Option.map_eq_some_iff.mp action
    cases same
    exact .inr ⟨w, rest, walking, done, goes, rfl⟩

theorem joins_cases {main : Main} {finished : Bool} {own : List (Event σ)}
    (action : s.joins main finished own = some (s', events)) :
    finished = true ∧ s' = { s with main } ∧ events = own := by
  unfold System.joins at action
  split_ifs at action with stopped
  cases action
  exact ⟨stopped, rfl, rfl⟩

theorem mainStep_cases {timedOut : Bool} (action : s.mainStep timedOut = some (s', events)) :
    Step config t s (.main timedOut) s' events := by
  unfold System.mainStep at action
  cases place : s.main <;> simp only [place] at action
  case serving =>
      cases action
      exact .cancelled place
  case cancelled =>
      cases action
      exact .signalled place
  case signalled =>
      split_ifs at action with ended
      cases action
      refine .awaited place ?_
      simpa [System.collectorsReturned] using ended
  case collectorsAwaited =>
      obtain ⟨stopped, rfl, rfl⟩ := joins_cases action
      exact .prometheusJoined place stopped
  case prometheusJoined =>
      obtain ⟨stopped, rfl, rfl⟩ := joins_cases action
      exact .otlpJoined place stopped
  case otlpJoined =>
      obtain ⟨stopped, rfl, rfl⟩ := joins_cases action
      exact .mqttJoined place stopped
  case done => cases action

theorem scrapeStep_cases {id : Nat} {stats : RandomState} {now : Internal.Instant}
    (action : s.scrapeStep id stats now = some (s', events)) :
    Step config t s (.scrape id stats now) s' events := by
  unfold System.scrapeStep at action
  split at action
  · cases action
  · rename_i place
    cases action
    exact .counted place
  · rename_i place
    rcases walk_cases action with ⟨idle, rfl, rfl⟩ | ⟨w, rest, walking, done, goes, rfl⟩
    · exact .walkStarted idle place
    · cases goes
      exact .scraped place walking done
  · rename_i store place
    cases action
    exact .responded place

theorem otlpTask_cases {otlp : OtlpExporterConfig} {env : Otlp.Env} {own : Otlp.State}
    (action : s.otlpTask otlp env own = some (s', events)) :
    ∃ next rest, Otlp.taskStep otlp env { own with internalMetrics := some s.internal } = some (next, rest) ∧
      s' = s.exported next ∧ events = rest.map .otlp := by
  obtain ⟨⟨next, rest⟩, own, same⟩ := Option.map_eq_some_iff.mp action
  cases same
  exact ⟨next, rest, own, rfl, rfl⟩

theorem otlpStep_cases {otlp : OtlpExporterConfig} {env : Otlp.Env} {own : Otlp.State}
    (given : config.exporters.otlp = some otlp) (present : s.otlp = some own)
    (action : s.otlpStep otlp env own = some (s', events)) : Step config t s (.otlp env) s' events := by
  unfold System.otlpStep at action
  split at action
  · rename_i flush place
    rcases walk_cases action with ⟨idle, rfl, rfl⟩ | ⟨w, rest, walking, done, goes, rfl⟩
    · exact .walkStarted idle ⟨own, present, flush, place⟩
    · obtain ⟨next, own, task, rfl, rfl⟩ := otlpTask_cases goes
      exact .otlpWalked given present place walking done task
  · rename_i place wake
    split_ifs at action with serving
    obtain ⟨next, own, task, rfl, rfl⟩ := otlpTask_cases action
    exact .otlp given present (by simp [place]) (fun _ _ => serving) task
  · rename_i elsewhere other
    obtain ⟨next, own, task, rfl, rfl⟩ := otlpTask_cases action
    exact .otlp given present elsewhere (fun wake place => absurd wake (other place)) task

theorem mqttTask_cases {mqtt : MqttExporterConfig} {input : Mqtt.Input} {own : Mqtt.State}
    (action : s.mqttTask mqtt input own = some (s', events)) :
    ∃ next rest, Mqtt.step mqtt own input = some (next, rest) ∧ s' = { s with mqtt := some next } ∧
      events = rest.map .mqtt := by
  obtain ⟨⟨next, rest⟩, own, same⟩ := Option.map_eq_some_iff.mp action
  cases same
  exact ⟨next, rest, own, rfl, rfl⟩

theorem mqttStep_cases {mqtt : MqttExporterConfig} {input : Mqtt.Input} {own : Mqtt.State}
    (given : config.exporters.mqtt = some mqtt) (present : s.mqtt = some own)
    (action : s.mqttStep mqtt own input = some (s', events)) : Step config t s (.mqtt input) s' events := by
  have own_task (elsewhere : ∀ env options, input = .main env → own.pc = .serving options → env.wake ≠ .slept)
      (alone : input ≠ .cancel) (free : (∃ env, input = .main env) → s.store.walks .mqtt = none)
      (other : s.mqttTask mqtt input own = some (s', events)) : Step config t s (.mqtt input) s' events := by
    obtain ⟨next, rest, task, rfl, rfl⟩ := mqttTask_cases other
    exact .mqtt given present elsewhere alone free task
  cases input with
  | main env =>
      simp only [System.mqttStep, System.mqttMain] at action
      split at action
      · rename_i options place woken
        rcases walk_cases action with ⟨idle, rfl, rfl⟩ | ⟨w, rest, walking, done, goes, rfl⟩
        · exact .walkStarted idle ⟨own, present, options, place⟩
        · obtain ⟨next, rest, task, rfl, rfl⟩ := mqttTask_cases goes
          exact .mqttWalked given present place woken walking done task
      · rename_i elsewhere
        split_ifs at action with walking
        refine own_task ?_ Mqtt.Input.noConfusion (fun _ => by simpa using walking) action
        rintro _ options same place
        cases same
        exact elsewhere options place
  | cancel => cases action
  | poll taken notification =>
      exact own_task (fun _ _ same => by cases same) Mqtt.Input.noConfusion (fun ⟨_, same⟩ => by cases same) action
  | eventLoopCancelled =>
      exact own_task (fun _ _ same => by cases same) Mqtt.Input.noConfusion (fun ⟨_, same⟩ => by cases same) action
  | eventLoopEnded =>
      exact own_task (fun _ _ same => by cases same) Mqtt.Input.noConfusion (fun ⟨_, same⟩ => by cases same) action

theorem visit_cases {walker : Walker} {collectorName : String}
    (action : s.visit walker collectorName = some (s', events)) :
    Step config t s (.visit walker collectorName) s' events := by
  obtain ⟨⟨store, seen⟩, visits, same⟩ := Option.map_eq_some_iff.mp action
  cases walking : s.store.walks walker with
  | none => simp [StoreAccess.step, walking] at visits
  | some w =>
      simp only [StoreAccess.step, walking] at visits
      split_ifs at visits with fresh
      cases visits
      cases same
      exact .visited walking fresh

theorem step_cases {input : Input n} (action : step config t s input = some (s', events)) :
    Step config t s input s' events := by
  cases input with
  | main timedOut => exact mainStep_cases action
  | collector i env =>
      obtain ⟨⟨next, own⟩, moved, same⟩ := Option.map_eq_some_iff.mp action
      cases same
      exact .collector moved
  | bind ok =>
      simp only [step, System.bind] at action
      split_ifs at action with place fits
      · cases action
        subst fits
        exact .bound place
      · cases action
        obtain rfl := Bool.eq_false_iff.mpr fits
        exact .unbound place
  | accept =>
      simp only [step, System.accept] at action
      split_ifs at action with place
      cases action
      exact .accepted place
  | scrape id stats now => exact scrapeStep_cases action
  | drain =>
      simp only [step, System.drain] at action
      split_ifs at action with place
      cases action
      exact .drained place.1 place.2
  | close =>
      simp only [step, System.close] at action
      split_ifs at action with place
      cases action
      exact .closed place.1 place.2
  | otlp env =>
      simp only [step] at action
      split at action
      · rename_i given present
        exact otlpStep_cases given present action
      · cases action
  | mqtt input =>
      simp only [step] at action
      split at action
      · rename_i given present
        exact mqttStep_cases given present action
      · cases action
  | visit walker collectorName => exact visit_cases action

end BusExporter.Daemon
