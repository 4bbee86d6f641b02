import BusExporter.Proof.PublishSteps

/-! The sessions of the MQTT exporter: what each connection attempt says, and how much of it waits in the channel
of the client. -/

namespace BusExporter.Mqtt
open Lib Config

def isAttempt : Event → Bool
  | .attempt _ => true
  | _ => false

def isSpoken : Event → Bool
  | .attempt _ | .connAck | .failed => false
  | _ => true

def spoken (trace : List Event) : List Event := (since isAttempt trace).filter isSpoken

variable (config : MqttExporterConfig)

def requestOf : Event → Option Request
  | .online true => some (.publish (statusMessage config "online"))
  | .published _ message true => some (.publish message)
  | .offline true => some (.publish (statusMessage config "offline"))
  | _ => none

def publication (sent : MetricValue × Bool) : Event := .published sent.1 (metricMessage config sent.1) sent.2

def Serving (session : List Event) : Prop :=
  ∃ sent : List (MetricValue × Bool), session = .online true :: sent.map (publication config)

inductive Session : List Event → Prop
  | opened : Session []
  | refused : Session [.online false]
  | refusedWaited {d : Duration} : Session [.online false, .waited d]
  | serving {session : List Event} (announced : Serving config session) : Session session
  | lost {session : List Event} {d : Duration} (announced : Serving config session) : Session (session ++ [.waited d])
  | left {session : List Event} {accepted : Bool} (announced : Serving config session) :
      Session (session ++ [.offline accepted])

def EndsWaited (session : List Event) : Prop := Session config session ∧ ∃ said d, session = said ++ [.waited d]

def Said (session : List Event) : Pc → Prop
  | .start | .announcing _ => session = []
  | .connecting _ => session = [] ∨ EndsWaited config session
  | .serving _ | .publishing _ _ | .farewell => Serving config session
  | .joining _ => session = [.online false] ∨ Serving config session
  | .waiting _ => EndsWaited config session
  | .disconnecting | .leaving => ∃ said accepted, Serving config said ∧ session = said ++ [.offline accepted]
  | .returned => Session config session

def parting : Pc → Bool
  | .farewell | .disconnecting | .leaving => true
  | _ => false

def Pc.options : Pc → Option MqttOptions
  | .connecting options | .announcing options | .serving options | .publishing options _ | .joining options
  | .waiting options => some options
  | _ => none

def Queued (trace : List Event) (s : State) : Prop :=
  ∃ taken last, (since isAttempt trace).filterMap (requestOf config) ++ last = taken ++ s.connection.requests ∧
    (last = [] ∨ last = [.disconnect] ∧ (s.pc = .leaving ∨ s.pc = .returned))

structure Holds (trace : List Event) (s : State) : Prop where
  said : Said config (spoken trace) s.pc
  queued : Queued config trace s
  room : s.connection.requests.length ≤ capacity
  parting : parting s.pc = true → s.cancelled = true
  offline : ∀ accepted, .offline accepted ∈ trace → s.cancelled = true
  begun : (∀ other, .attempt other ∉ trace) ∨
    s.pc ≠ .start ∧ ∀ options, s.pc = .connecting options → EndsWaited config (spoken trace)
  options : ∀ options, s.pc.options = some options → options.lastWill = statusMessage config "offline" ∧
    ∀ other, .attempt other ∈ trace → other = options

variable {config}

theorem Serving.published {session : List Event} (announced : Serving config session) (m : MetricValue)
    (accepted : Bool) : Serving config (session ++ [.published m (metricMessage config m) accepted]) := by
  obtain ⟨sent, rfl⟩ := announced
  exact ⟨sent ++ [(m, accepted)], by simp [publication]⟩

theorem Said.session {session : List Event} {pc : Pc} (said : Said config session pc) : Session config session := by
  cases pc with
  | start | announcing options =>
      cases said
      exact .opened
  | connecting options =>
      rcases said with rfl | ended
      · exact .opened
      · exact ended.1
  | serving options | publishing options rest | farewell => exact .serving said
  | joining options =>
      rcases said with rfl | announced
      · exact .refused
      · exact .serving announced
  | waiting options => exact said.1
  | disconnecting | leaving =>
      obtain ⟨first, accepted, announced, rfl⟩ := said
      exact .left announced
  | returned => exact said

theorem spoken_append {trace events : List Event} (quiet : ∀ e ∈ events, isAttempt e = false) :
    spoken (trace ++ events) = spoken trace ++ events.filter isSpoken := by
  rw [spoken, since_append isAttempt trace events quiet, List.filter_append, spoken]

theorem spoken_silent {trace events : List Event} (quiet : ∀ e ∈ events, isAttempt e = false ∧ isSpoken e = false) :
    spoken (trace ++ events) = spoken trace := by
  rw [spoken_append fun e member => (quiet e member).1, List.filter_eq_nil_iff.mpr, List.append_nil]
  intro e member spoke
  rw [(quiet e member).2] at spoke
  cases spoke

theorem said_step {trace events : List Event} {s s' : State} {input : Input}
    (said : Said config (spoken trace) s.pc) (step : Step config s input s' events) :
    Said config (spoken (trace ++ events)) s'.pc := by
  have saying {e : Event} (attempt : isAttempt e = false) (spoke : isSpoken e = true) :
      spoken (trace ++ [e]) = spoken trace ++ [e] := by
    rw [spoken_append (by simp [attempt])]
    simp [spoke]
  cases step
  case attempted env options place => simp [spoken, isAttempt, Said]
  case announced env options connection place sent =>
      simp only [place, Said] at said
      rw [saying rfl rfl, said]
      exact ⟨[], rfl⟩
  case unannounced env options connection place sent =>
      simp only [place, Said] at said
      rw [saying rfl rfl, said]
      exact .inl rfl
  case published env options m rest accepted connection place sent =>
      simp only [place, Said] at said
      rw [saying rfl rfl]
      exact said.published m accepted
  case joined env options place gone running =>
      simp only [place, Said] at said
      rw [saying rfl rfl]
      refine ⟨?_, spoken trace, s.backoff, rfl⟩
      rcases said with refused | announced
      · rw [refused]
        exact .refusedWaited
      · exact .lost announced
  case parted env accepted connection place sent =>
      simp only [place, Said] at said
      rw [saying rfl rfl]
      exact ⟨spoken trace, accepted, said, rfl⟩
  case polled taken notification connection running reported =>
      rw [spoken_silent]
      · exact said
      · rcases pollStep_events reported with rfl | rfl | rfl <;> simp [isAttempt, isSpoken]
  case unconfigured | joinStopped | waitStopped | left =>
      rw [List.append_nil]
      exact said.session
  case configured env endpoint options place given built =>
      simp only [place, Said] at said
      rw [List.append_nil]
      exact .inl said
  case stopping place requested | walked place | snapshot place =>
      simp only [place, Said] at said
      rw [List.append_nil]
      exact said
  case lost env options place down =>
      simp only [place, Said] at said
      rw [List.append_nil]
      exact .inr said
  case slept env options place =>
      simp only [place, Said] at said
      rw [List.append_nil]
      exact .inr said
  case disconnected env accepted connection place sent =>
      simp only [place, Said] at said
      rw [List.append_nil]
      exact said
  all_goals
    rw [List.append_nil]
    exact said

theorem since_quiet {trace events : List Event} (quiet : ∀ e ∈ events, isAttempt e = false) :
    (since isAttempt (trace ++ events)).filterMap (requestOf config) =
      (since isAttempt trace).filterMap (requestOf config) ++ events.filterMap (requestOf config) := by
  rw [since_append isAttempt trace events quiet, List.filterMap_append]

theorem Queued.plain {trace : List Event} {s : State} (queued : Queued config trace s) (leaving : s.pc ≠ .leaving)
    (returned : s.pc ≠ .returned) :
    ∃ taken, (since isAttempt trace).filterMap (requestOf config) = taken ++ s.connection.requests := by
  obtain ⟨taken, last, whole, rfl | ⟨-, place | place⟩⟩ := queued
  · exact ⟨taken, by rw [← whole, List.append_nil]⟩
  · exact absurd place leaving
  · exact absurd place returned

theorem queued_sent {trace : List Event} {s s' : State} {e : Event} {request : Request} {accepted : Bool}
    (queued : Queued config trace s) (leaving : s.pc ≠ .leaving) (returned : s.pc ≠ .returned)
    (sent : Sent s.connection request accepted s'.connection) (attempt : isAttempt e = false)
    (made : requestOf config e = if accepted then some request else none) : Queued config (trace ++ [e]) s' := by
  obtain ⟨taken, whole⟩ := queued.plain leaving returned
  refine ⟨taken, [], ?_, .inl rfl⟩
  rw [since_quiet (by simp [attempt]), whole, List.append_nil]
  generalize connection : s'.connection = after at sent
  cases sent with
  | accepted held room => simp [made]
  | refused gone => simp [made]

theorem queued_step {trace events : List Event} {s s' : State} {input : Input} (queued : Queued config trace s)
    (step : Step config s input s' events) : Queued config (trace ++ events) s' := by
  have kept (silent : events = []) (requests : s'.connection.requests = s.connection.requests)
      (place : s'.pc = s.pc ∨ s'.pc = .returned ∨ (s.pc ≠ .leaving ∧ s.pc ≠ .returned)) :
      Queued config (trace ++ events) s' := by
    obtain ⟨taken, last, whole, closing⟩ := queued
    refine ⟨taken, last, by rw [silent, List.append_nil, requests, whole], closing.imp_right ?_⟩
    rintro ⟨rfl, gone⟩
    refine ⟨rfl, ?_⟩
    rcases place with same | returned | ⟨leaving, returned⟩
    · rwa [same]
    · exact .inr returned
    · rcases gone with here | here
      · exact absurd here leaving
      · exact absurd here returned
  cases step
  case attempted env options place => exact ⟨[], [], by simp [isAttempt], .inl rfl⟩
  case announced env options connection place sent =>
      exact queued_sent queued (by simp [place]) (by simp [place]) sent rfl rfl
  case unannounced env options connection place sent =>
      exact queued_sent queued (by simp [place]) (by simp [place]) sent rfl rfl
  case published env options m rest accepted connection place sent =>
      exact queued_sent queued (by simp [place]) (by simp [place]) sent rfl (by cases accepted <;> rfl)
  case parted env accepted connection place sent =>
      exact queued_sent queued (by simp [place]) (by simp [place]) sent rfl (by cases accepted <;> rfl)
  case disconnected env accepted connection place sent =>
      obtain ⟨taken, whole⟩ := queued.plain (by simp [place]) (by simp [place])
      rw [List.append_nil]
      cases sent with
      | accepted held room =>
          exact ⟨taken, [.disconnect], by rw [whole, List.append_assoc], .inr ⟨rfl, .inl rfl⟩⟩
      | refused gone => exact ⟨taken, [], by rw [whole, List.append_nil], .inl rfl⟩
  case joined env options place gone running =>
      obtain ⟨taken, whole⟩ := queued.plain (by simp [place]) (by simp [place])
      refine ⟨taken, [], ?_, .inl rfl⟩
      rw [since_quiet (by simp [isAttempt]), whole]
      simp [requestOf]
  case polled taken notification connection running reported =>
      obtain ⟨before, last, whole, closing⟩ := queued
      have quiet : ∀ e ∈ events, isAttempt e = false ∧ requestOf config e = none := by
        rcases pollStep_events reported with rfl | rfl | rfl <;> simp [isAttempt, requestOf]
      have requests : connection.requests = s.connection.requests.drop taken := by
        unfold pollStep at reported
        rw [if_pos running] at reported
        cases notification <;> cases reported <;> rfl
      refine ⟨before ++ s.connection.requests.take taken, last, ?_, closing⟩
      rw [since_quiet fun e member => (quiet e member).1, List.filterMap_eq_nil_iff.mpr fun e member =>
        (quiet e member).2, List.append_nil, whole, requests, List.append_assoc, List.take_append_drop]
  case kept | eventLoopStopped | eventLoopEnded | cancelled => exact kept rfl rfl (.inl rfl)
  case unconfigured | joinStopped | waitStopped | left => exact kept rfl rfl (.inr (.inl rfl))
  all_goals exact kept rfl rfl (.inr (.inr (by simp [*])))

theorem sent_room {c connection : Connection} {request : Request} {accepted : Bool}
    (sent : Sent c request accepted connection) (room : c.requests.length ≤ capacity) :
    connection.requests.length ≤ capacity := by
  cases sent with
  | accepted held free =>
      rw [List.length_append]
      exact free
  | refused gone => exact room

theorem room_step {s s' : State} {input : Input} {events : List Event}
    (room : s.connection.requests.length ≤ capacity) (step : Step config s input s' events) :
    s'.connection.requests.length ≤ capacity := by
  cases step
  case attempted => exact Nat.zero_le _
  case announced sent => exact sent_room sent room
  case unannounced sent => exact sent_room sent room
  case published sent => exact sent_room sent room
  case parted sent => exact sent_room sent room
  case disconnected sent => exact sent_room sent room
  case polled taken notification connection running reported =>
      unfold pollStep at reported
      rw [if_pos running] at reported
      have fewer : (s.connection.requests.drop taken).length ≤ capacity := by
        rw [List.length_drop]
        exact (Nat.sub_le _ _).trans room
      cases notification <;> cases reported <;> exact fewer
  all_goals exact room

theorem lastWill_of_mqttOptions {files : Files} {endpoint : String} {options : MqttOptions}
    (built : mqttOptions files config endpoint = .ok options) :
    options.lastWill = statusMessage config "offline" := by
  simp only [mqttOptions, bind, Except.bind] at built
  split_ifs at built
  · split at built
    · cases built
    · cases built
      rfl
  · cases built
    rfl

theorem options_step {s s' : State} {input : Input} {events : List Event} (step : Step config s input s' events)
    {options : MqttOptions} (given : s'.pc.options = some options) :
    (s.pc.options = some options ∨ s.pc = .start ∧ options.lastWill = statusMessage config "offline") ∧
      ∀ other, .attempt other ∈ events → other = options := by
  cases step
  case configured env endpoint options' place present built =>
      cases given
      exact ⟨.inr ⟨place, lastWill_of_mqttOptions built⟩, by simp⟩
  case attempted env options' place =>
      cases given
      refine ⟨.inl (by rw [place]; rfl), ?_⟩
      intro other member
      cases List.mem_singleton.mp member
      rfl
  case polled taken notification connection running reported =>
      refine ⟨.inl given, ?_⟩
      rcases pollStep_events reported with rfl | rfl | rfl <;> simp
  case kept | eventLoopStopped | eventLoopEnded | cancelled => exact ⟨.inl given, by simp⟩
  all_goals first
    | cases given
      done
    | refine ⟨.inl ?_, by simp⟩
      simp only [Pc.options] at given ⊢
      simp [*]

theorem parting_step {s s' : State} {input : Input} {events : List Event}
    (before : parting s.pc = true → s.cancelled = true) (step : Step config s input s' events) :
    (parting s'.pc = true → s'.cancelled = true) ∧ (s.cancelled = true → s'.cancelled = true) ∧
      ∀ accepted, .offline accepted ∈ events → s'.cancelled = true := by
  cases step
  case stopping env options place requested => exact ⟨fun _ => requested, id, by simp⟩
  case parted env accepted connection place sent =>
      have cancelled : s.cancelled = true := before (by simp [place, parting])
      exact ⟨fun _ => cancelled, id, fun _ _ => cancelled⟩
  case disconnected env accepted connection place sent =>
      have cancelled : s.cancelled = true := before (by simp [place, parting])
      exact ⟨fun _ => cancelled, id, fun _ _ => cancelled⟩
  case polled taken notification connection running reported =>
      refine ⟨before, id, ?_⟩
      rcases pollStep_events reported with rfl | rfl | rfl <;> simp
  case cancelled => exact ⟨fun _ => rfl, fun _ => rfl, by simp⟩
  case kept | eventLoopStopped | eventLoopEnded => exact ⟨before, id, by simp⟩
  all_goals exact ⟨by simp [parting], id, by simp⟩

theorem begun_step {trace events : List Event} {s s' : State} {input : Input} (holds : Holds config trace s)
    (step : Step config s input s' events) :
    (∀ other, .attempt other ∉ trace ++ events) ∨
      s'.pc ≠ .start ∧ ∀ options, s'.pc = .connecting options → EndsWaited config (spoken (trace ++ events)) := by
  have elsewhere (start : s'.pc ≠ .start) (connecting : ∀ options, s'.pc ≠ .connecting options) :
      (∀ other, .attempt other ∉ trace ++ events) ∨
        s'.pc ≠ .start ∧ ∀ options, s'.pc = .connecting options → EndsWaited config (spoken (trace ++ events)) :=
    .inr ⟨start, fun options place => absurd place (connecting options)⟩
  have unchanged (place : s'.pc = s.pc) (quiet : ∀ e ∈ events, isAttempt e = false ∧ isSpoken e = false) :
      (∀ other, .attempt other ∉ trace ++ events) ∨
        s'.pc ≠ .start ∧ ∀ options, s'.pc = .connecting options → EndsWaited config (spoken (trace ++ events)) := by
    rw [place, spoken_silent quiet]
    refine holds.begun.imp_left fun none other member => ?_
    rcases List.mem_append.mp member with old | new
    · exact none other old
    · cases (quiet _ new).1
  cases step
  case configured env endpoint options place given built =>
      rcases holds.begun with none | ⟨started, -⟩
      · exact .inl fun other => by simpa using none other
      · exact absurd place started
  case slept env options place =>
      have said := holds.said
      simp only [place, Said] at said
      refine .inr ⟨by simp, fun _ _ => ?_⟩
      rw [List.append_nil]
      exact said
  case polled taken notification connection running reported =>
      refine unchanged rfl ?_
      rcases pollStep_events reported with rfl | rfl | rfl <;> simp [isAttempt, isSpoken]
  case kept | eventLoopStopped | eventLoopEnded | cancelled => exact unchanged rfl (by simp)
  all_goals exact elsewhere (by simp) (by simp)

theorem holds_step {trace events : List Event} {s s' : State} {input : Input} (holds : Holds config trace s)
    (step : Step config s input s' events) : Holds config (trace ++ events) s' := by
  obtain ⟨parted, cancelled, offline⟩ := parting_step holds.parting step
  refine ⟨said_step holds.said step, queued_step holds.queued step, room_step holds.room step, parted, ?_,
    begun_step holds step, ?_⟩
  · intro accepted member
    rcases List.mem_append.mp member with old | new
    · exact cancelled (holds.offline accepted old)
    · exact offline accepted new
  · intro options given
    obtain ⟨from_before, now⟩ := options_step step given
    rcases from_before with before | ⟨place, will⟩
    · obtain ⟨will, earlier⟩ := holds.options options before
      refine ⟨will, fun other member => ?_⟩
      rcases List.mem_append.mp member with old | new
      · exact earlier other old
      · exact now other new
    · refine ⟨will, fun other member => ?_⟩
      rcases List.mem_append.mp member with old | new
      · rcases holds.begun with none | ⟨started, -⟩
        · exact absurd old (none other)
        · exact absurd place started
      · exact now other new

theorem holds_run {trace : List Event} {s : State} (run : (machine config).Run {} trace s) : Holds config trace s := by
  refine run.invariant (P := Holds config) ?_ fun _ holds action => holds_step holds (step_cases action)
  exact ⟨rfl, ⟨[], [], rfl, .inl rfl⟩, Nat.zero_le _, by simp [parting], by simp, .inl (by simp), by simp [Pc.options]⟩

theorem spoken_attempt (before session : List Event) (options : MqttOptions)
    (alone : ∀ e ∈ session, isAttempt e = false) :
    spoken (before ++ .attempt options :: session) = session.filter isSpoken := by
  rw [spoken, since_after_marker isAttempt _ _ rfl, since_eq_self isAttempt alone]

variable (config)

/-- An attempt announces itself before it publishes, publishes nothing once it has said that it leaves, and is
followed by another only after it has waited. What it has put into the channel is taken in that order, and the
broker is told on a lost connection what a farewell would have told it. -/
theorem attempt_session {before session : List Event} {options : MqttOptions} {s : State}
    (run : (machine config).Run {} (before ++ .attempt options :: session) s)
    (alone : ∀ e ∈ session, isAttempt e = false) :
    Session config (session.filter isSpoken) ∧
      (∃ taken last, session.filterMap (requestOf config) ++ last = taken ++ s.connection.requests ∧
        (last = [] ∨ last = [.disconnect])) ∧
      s.connection.requests.length ≤ capacity ∧
      (∀ accepted, .offline accepted ∈ session → s.cancelled = true) ∧
      options.lastWill = statusMessage config "offline" ∧
      ∀ earlier other between, before = earlier ++ .attempt other :: between → (∀ e ∈ between, isAttempt e = false) →
        other = options ∧ EndsWaited config (between.filter isSpoken) := by
  have holds := holds_run run
  obtain ⟨taken, last, whole, closing⟩ := holds.queued
  rw [since_after_marker isAttempt _ _ rfl, since_eq_self isAttempt alone] at whole
  obtain ⟨_, state, input, state', first, rest, previous, action, rfl⟩ := run.emitted rfl
  have connecting : state.pc = .connecting options ∧ first = [] := by
    generalize emitted : first ++ .attempt options :: rest = events at action
    have member : .attempt options ∈ events := by simp [← emitted]
    cases step_cases action
    case attempted env options' place =>
        cases List.mem_singleton.mp member
        exact ⟨place, (List.append_eq_singleton_iff.mp emitted).elim (·.1) fun other => by simp at other⟩
    case polled taken notification connection running reported =>
        rcases pollStep_events reported with rfl | rfl | rfl <;> simp at member
    all_goals simp at member
  obtain ⟨place, rfl⟩ := connecting
  have earlier := holds_run previous
  obtain ⟨will, same⟩ := earlier.options options (by rw [place]; rfl)
  refine ⟨spoken_attempt _ session options alone ▸ holds.said.session, ⟨taken, last, whole, closing.imp_right (·.1)⟩,
    holds.room, fun accepted member => holds.offline accepted (by simp [member]), will, ?_⟩
  intro before other between split quiet
  rw [List.append_nil] at split
  subst split
  refine ⟨same other (by simp), ?_⟩
  rcases earlier.begun with none | ⟨-, waited⟩
  · exact absurd (by simp) (none other)
  · rw [← spoken_attempt before between other quiet]
    exact waited options place

def pierConfig : MqttExporterConfig := { endpoint := some "mqtt://broker" }

def pierLevel : MetricValue :=
  { name := "level", value := 1, metricType := .gauge, description := "", unit := "", updatedAt := 0 }

def pierDay : List Input :=
  [.main {}, .main {}, .main {}, .poll 0 .failed, .eventLoopEnded, .main { wake := .changed }, .main {}, .main {},
    .main {}, .main {}, .poll 1 .connAck, .main { store := (∅ : MetricStore).insert "pier" [pierLevel] }, .main {},
    .main {}, .cancel, .main { wake := .cancelled }, .main {}, .main {}]

theorem attempt_session_pier :
    ∃ options message s, Session pierConfig [.online true, .published pierLevel message true, .offline true] ∧
      (machine pierConfig).exec {} pierDay = some ([.attempt options, .online true, .failed, .waited (Duration.fromSecs 1),
        .attempt options, .online true, .connAck, .published pierLevel message true, .offline true], s) ∧
      options.lastWill = statusMessage pierConfig "offline" := by
  have executed : ∃ options message s, (machine pierConfig).exec {} pierDay =
      some ([.attempt options, .online true, .failed, .waited (Duration.fromSecs 1)] ++ .attempt options ::
        [.online true, .connAck, .published pierLevel message true, .offline true], s) := ⟨_, _, _, rfl⟩
  obtain ⟨options, message, s, executed⟩ := executed
  obtain ⟨session, -, -, -, will, -⟩ :=
    attempt_session pierConfig (Machine.exec_run executed) (by simp [isAttempt])
  exact ⟨options, message, s, session, executed, will⟩

end BusExporter.Mqtt
