import BusExporter.Model.Mqtt

/-! What one step of the MQTT exporter and its event loop can do. -/

namespace BusExporter.Mqtt
open Lib Config

inductive Sent (c : Connection) (request : Request) : Bool → Connection → Prop
  | accepted (held : c.eventLoop ≠ .ended) (room : c.requests.length < capacity) :
      Sent c request true { c with requests := c.requests ++ [request] }
  | refused (gone : c.eventLoop = .ended) : Sent c request false c

inductive Step (config : MqttExporterConfig) (s : State) : Input → State → List Event → Prop
  | unconfigured {env : Env} (place : s.pc = .start) : Step config s (.main env) { s with pc := .returned } []
  | configured {env : Env} {endpoint : String} {options : MqttOptions} (place : s.pc = .start)
      (given : config.endpoint = some endpoint) (built : mqttOptions env.files config endpoint = .ok options) :
      Step config s (.main env) { s with pc := .connecting options } []
  | attempted {env : Env} {options : MqttOptions} (place : s.pc = .connecting options) :
      Step config s (.main env) { s with pc := .announcing options, connection := {} } [.attempt options]
  | announced {env : Env} {options : MqttOptions} {connection : Connection} (place : s.pc = .announcing options)
      (sent : Sent s.connection (.publish (statusMessage config "online")) true connection) :
      Step config s (.main env)
        { s with connection, pc := .serving options, backoff := Duration.fromSecs 1 } [.online true]
  | unannounced {env : Env} {options : MqttOptions} {connection : Connection} (place : s.pc = .announcing options)
      (sent : Sent s.connection (.publish (statusMessage config "online")) false connection) :
      Step config s (.main env) { s with connection, pc := .joining options } [.online false]
  | stopping {env : Env} {options : MqttOptions} (place : s.pc = .serving options) (requested : s.cancelled = true) :
      Step config s (.main env) { s with pc := .farewell } []
  | kept {env : Env} {options : MqttOptions} (place : s.pc = .serving options) (up : s.connection.connected = true) :
      Step config s (.main env) { s with connection := { s.connection with changed := false } } []
  | lost {env : Env} {options : MqttOptions} (place : s.pc = .serving options) (down : s.connection.connected = false) :
      Step config s (.main env)
        { s with connection := { s.connection with changed := false }, pc := .joining options } []
  | snapshot {env : Env} {options : MqttOptions} (place : s.pc = .serving options) :
      Step config s (.main env) { s with pc := .publishing options (env.store.allMetricsFlat env.stored) } []
  | published {env : Env} {options : MqttOptions} {m : MetricValue} {rest : List MetricValue} {accepted : Bool}
      {connection : Connection} (place : s.pc = .publishing options (m :: rest))
      (sent : Sent s.connection (.publish (metricMessage config m)) accepted connection) :
      Step config s (.main env) { s with connection, pc := .publishing options rest }
        [.published m (metricMessage config m) accepted]
  | walked {env : Env} {options : MqttOptions} (place : s.pc = .publishing options []) :
      Step config s (.main env) { s with pc := .serving options } []
  | joinStopped {env : Env} {options : MqttOptions} (place : s.pc = .joining options)
      (gone : s.connection.eventLoop = .ended) : Step config s (.main env) { s with pc := .returned } []
  | joined {env : Env} {options : MqttOptions} (place : s.pc = .joining options)
      (gone : s.connection.eventLoop = .ended) (running : s.cancelled = false) :
      Step config s (.main env) { s with pc := .waiting options } [.waited s.backoff]
  | waitStopped {env : Env} {options : MqttOptions} (place : s.pc = .waiting options) :
      Step config s (.main env) { s with pc := .returned } []
  | slept {env : Env} {options : MqttOptions} (place : s.pc = .waiting options) :
      Step config s (.main env) { s with pc := .connecting options, backoff := min (s.backoff * 2) maxBackoff } []
  | parted {env : Env} {accepted : Bool} {connection : Connection} (place : s.pc = .farewell)
      (sent : Sent s.connection (.publish (statusMessage config "offline")) accepted connection) :
      Step config s (.main env) { s with connection, pc := .disconnecting } [.offline accepted]
  | disconnected {env : Env} {accepted : Bool} {connection : Connection} (place : s.pc = .disconnecting)
      (sent : Sent s.connection .disconnect accepted connection) :
      Step config s (.main env) { s with connection, pc := .leaving } []
  | left {env : Env} (place : s.pc = .leaving) (gone : s.connection.eventLoop = .ended) :
      Step config s (.main env) { s with pc := .returned } []
  | polled {taken : Nat} {notification : Notification} {connection : Connection} {events : List Event}
      (running : s.connection.eventLoop = .running)
      (reported : pollStep taken notification s.connection = some (connection, events)) :
      Step config s (.poll taken notification) { s with connection } events
  | eventLoopStopped (running : s.connection.eventLoop = .running) (requested : s.cancelled = true) :
      Step config s .eventLoopCancelled { s with connection := { s.connection with eventLoop := .ended } } []
  | eventLoopEnded (failed : s.connection.eventLoop = .failed) :
      Step config s .eventLoopEnded { s with connection := { s.connection with eventLoop := .ended } } []
  | cancelled : Step config s .cancel { s with cancelled := true } []

theorem sent_of_send {c connection : Connection} {request : Request} {accepted : Bool}
    (sent : c.send request = some (accepted, connection)) : Sent c request accepted connection := by
  unfold Connection.send at sent
  split_ifs at sent with gone room
  · cases sent
    exact .refused gone
  · cases sent
    exact .accepted gone room

theorem send_map_cases {α : Type} {c : Connection} {request : Request} {f : Bool × Connection → α} {result : α}
    (mapped : (c.send request).map f = some result) :
    ∃ accepted connection, Sent c request accepted connection ∧ result = f (accepted, connection) := by
  obtain ⟨⟨accepted, connection⟩, sent, rfl⟩ := Option.map_eq_some_iff.mp mapped
  exact ⟨accepted, connection, sent_of_send sent, rfl⟩

variable {config : MqttExporterConfig}

theorem mainStep_cases {env : Env} {s s' : State} {events : List Event}
    (action : mainStep config env s = some (s', events)) : Step config s (.main env) s' events := by
  unfold mainStep at action
  cases place : s.pc with
  | start =>
      simp only [place] at action
      split at action
      · cases action
        exact .unconfigured place
      · rename_i endpoint given
        split at action
        · cases action
          exact .unconfigured place
        · rename_i options built
          cases action
          exact .configured place given built
  | connecting options =>
      simp only [place] at action
      cases action
      exact .attempted place
  | announcing options =>
      simp only [place] at action
      obtain ⟨accepted, connection, sent, result⟩ := send_map_cases action
      cases accepted with
      | true =>
          cases result
          exact .announced place sent
      | false =>
          cases result
          exact .unannounced place sent
  | serving options =>
      simp only [place] at action
      split at action
      · split_ifs at action with requested
        cases action
        exact .stopping place requested
      · split_ifs at action with ready up
        · cases action
          rw [← place]
          exact .kept place up
        · cases action
          exact .lost place (Bool.not_eq_true _ ▸ up)
      · cases action
        exact .snapshot place
  | publishing options rest =>
      cases rest with
      | nil =>
          simp only [place] at action
          cases action
          exact .walked place
      | cons m rest =>
          simp only [place] at action
          obtain ⟨accepted, connection, sent, result⟩ := send_map_cases action
          cases result
          exact .published place sent
  | joining options =>
      simp only [place] at action
      split_ifs at action with held requested
      · cases action
        exact .joinStopped place (by simpa using held)
      · cases action
        exact .joined place (by simpa using held) (by simpa using requested)
  | waiting options =>
      simp only [place] at action
      split at action
      · split_ifs at action
        cases action
        exact .waitStopped place
      · cases action
      · cases action
        exact .slept place
  | farewell =>
      simp only [place] at action
      obtain ⟨accepted, connection, sent, result⟩ := send_map_cases action
      cases result
      exact .parted place sent
  | disconnecting =>
      simp only [place] at action
      obtain ⟨accepted, connection, sent, result⟩ := send_map_cases action
      cases result
      exact .disconnected place sent
  | leaving =>
      simp only [place] at action
      split_ifs at action with gone
      cases action
      exact .left place gone
  | returned =>
      simp only [place] at action
      cases action

theorem step_cases {s s' : State} {input : Input} {events : List Event}
    (action : step config s input = some (s', events)) : Step config s input s' events := by
  cases input with
  | main env => exact mainStep_cases action
  | poll taken notification =>
      obtain ⟨⟨connection, reported⟩, polled, result⟩ := Option.map_eq_some_iff.mp action
      cases result
      refine .polled ?_ polled
      unfold pollStep at polled
      split_ifs at polled with running
      exact running
  | eventLoopCancelled =>
      simp only [step] at action
      split_ifs at action with both
      cases action
      exact .eventLoopStopped both.2 both.1
  | eventLoopEnded =>
      simp only [step] at action
      split_ifs at action with failed
      cases action
      exact .eventLoopEnded failed
  | cancel =>
      simp only [step] at action
      cases action
      exact .cancelled

theorem pollStep_events {taken : Nat} {notification : Notification} {c connection : Connection}
    {events : List Event} (reported : pollStep taken notification c = some (connection, events)) :
    events = [] ∨ events = [.connAck] ∨ events = [.failed] := by
  unfold pollStep at reported
  split_ifs at reported
  cases notification <;> cases reported <;> simp

end BusExporter.Mqtt
