import BusExporter.Model.Otlp
import BusExporter.Proof.PublishSteps

/-! What a step of an exporter that pushes is to its round: the walk of the store that begins it, what the walk
found, and what of this is still to be sent. -/

namespace BusExporter.Otlp
open Lib Config

def Pc.held : Pc → Option (List MetricValue)
  | .register _ metrics _ | .replace _ metrics => some metrics
  | _ => none

inductive Turn (env : Env) (s s' : State) (events : List Event) : Prop
  | begins {flush : Bool} (place : s.pc = .snapshot flush) (silent : events = [])
      (found : s'.pc.held = none ∧ s.internalMetrics = none ∨ s'.pc.held = some (env.store.allMetricsFlat env.stored))
  | shares {metrics : List MetricValue} (held : s.pc.held = some metrics) (held' : s'.pc.held = none)
      (sent : events = [.shared metrics])
  | keeps (elsewhere : ∀ flush, s.pc ≠ .snapshot flush) (held : s'.pc.held = s.pc.held)
      (unshared : ∀ metrics, .shared metrics ∉ events)

theorem turn_of_taskStep {config : OtlpExporterConfig} {env : Env} {s s' : State} {events : List Event}
    (action : taskStep config env s = some (s', events)) : Turn env s s' events := by
  unfold taskStep at action
  cases place : s.pc with
  | snapshot flush =>
      simp only [place] at action
      split_ifs at action with last empty
      · cases action
        exact .begins place rfl (.inr rfl)
      · cases action
        simp only [Bool.and_eq_true, Option.isNone_iff_eq_none] at empty
        exact .begins place rfl (.inl ⟨rfl, empty.2⟩)
      · cases action
        exact .begins place rfl (.inr rfl)
  | replace flush metrics =>
      simp only [place] at action
      cases action
      exact .shares (by rw [place]; rfl) rfl rfl
  | start =>
      simp only [place] at action
      have held : s'.pc.held = none ∧ events = [] := by
        split at action
        · cases action
          exact ⟨rfl, rfl⟩
        · cases action
          split_ifs <;> exact ⟨rfl, rfl⟩
      exact .keeps (by simp [place]) (by rw [held.1, place]; rfl) (by simp [held.2])
  | waiting =>
      simp only [place] at action
      split at action <;> cases action <;> exact .keeps (by simp [place]) (by rw [place]; rfl) (by simp)
  | register flush metrics rest =>
      cases rest <;> simp only [place] at action <;> cases action <;>
        exact .keeps (by simp [place]) (by rw [place]; rfl) (by simp)
  | internal flush =>
      simp only [place] at action
      have held : s'.pc.held = none ∧ events = [] := by
        split at action
        · cases action
          split_ifs <;> exact ⟨rfl, rfl⟩
        · cases action
          exact ⟨rfl, rfl⟩
      exact .keeps (by simp [place]) (by rw [held.1, place]; rfl) (by simp [held.2])
  | registerInternal flush values rest =>
      cases rest <;> simp only [place] at action <;> cases action <;>
        exact .keeps (by simp [place]) (by rw [place]; rfl) (by simp)
  | replaceInternal flush values =>
      simp only [place] at action
      cases action
      refine .keeps (by simp [place]) ?_ (by simp)
      rw [place]
      split_ifs <;> rfl
  | shutdown =>
      simp only [place] at action
      cases action
      exact .keeps (by simp [place]) (by rw [place]; rfl) (by simp)
  | stopped => simp [place] at action

end BusExporter.Otlp

namespace BusExporter.Mqtt
open Lib Config

def Pc.held : Pc → List MetricValue
  | .publishing _ rest => rest
  | _ => []

theorem snapshot_taken {config : MqttExporterConfig} {env : Env} {s s' : State} {events : List Event}
    {options : MqttOptions} (place : s.pc = .serving options)
    (action : step config s (.main env) = some (s', events)) (woken : env.wake = .slept) :
    s'.pc = .publishing options (env.store.allMetricsFlat env.stored) ∧ events = [] := by
  simp only [step, mainStep, place, woken] at action
  cases action
  exact ⟨rfl, rfl⟩

theorem snapshot_woken {config : MqttExporterConfig} {env : Env} {s s' : State} {events : List Event}
    {options options' : MqttOptions} {metrics : List MetricValue} (place : s.pc = .serving options)
    (action : mainStep config env s = some (s', events)) (taken : s'.pc = .publishing options' metrics) :
    env.wake = .slept := by
  cases woken : env.wake with
  | slept => rfl
  | cancelled =>
      simp only [mainStep, place, woken] at action
      split_ifs at action
      cases action
      cases taken
  | changed =>
      simp only [mainStep, place, woken] at action
      split_ifs at action <;> cases action <;> cases taken

def Pc.Idle (pc : Pc) : Prop := ∀ options rest, pc ≠ .publishing options rest

theorem Pc.Idle.held {pc : Pc} (idle : pc.Idle) : pc.held = [] := by
  cases pc with
  | publishing options rest => exact absurd rfl (idle options rest)
  | _ => rfl

inductive Turn (s s' : State) (input : Input) (events : List Event) : Prop
  | begins {env : Env} {options : MqttOptions} (main : input = .main env) (place : s.pc = .serving options)
      (woken : env.wake = .slept) (place' : s'.pc = .publishing options (env.store.allMetricsFlat env.stored))
      (silent : events = [])
  | sends {options : MqttOptions} {m : MetricValue} {rest : List MetricValue} {message : Message} {accepted : Bool}
      (place : s.pc = .publishing options (m :: rest)) (place' : s'.pc = .publishing options rest)
      (sent : events = [.published m message accepted])
  | finishes {options : MqttOptions} (place : s.pc = .publishing options []) (place' : s'.pc.Idle)
      (silent : events = [])
  | watches (place : s'.pc = s.pc) (reported : ∀ e ∈ events, e = .connAck ∨ e = .failed)
  | apart (place : s.pc.Idle) (place' : s'.pc.Idle)
      (unsent : ∀ m message accepted, .published m message accepted ∉ events)

theorem turn_of_step {config : MqttExporterConfig} {s s' : State} {input : Input} {events : List Event}
    (action : step config s input = some (s', events)) : Turn s s' input events := by
  cases step_cases action
  case snapshot env options place => exact .begins rfl place (snapshot_woken place action rfl) rfl rfl
  case published env options m rest accepted connection place sent => exact .sends place rfl rfl
  case walked env options place => exact .finishes place (by simp [Pc.Idle]) rfl
  case polled taken notification connection running reported =>
      refine .watches rfl ?_
      rcases pollStep_events reported with rfl | rfl | rfl <;> simp
  case kept | eventLoopStopped | eventLoopEnded | cancelled => exact .watches rfl (by simp)
  all_goals exact .apart (by simp [Pc.Idle, *]) (by simp [Pc.Idle]) (by simp)

theorem step_single {config : MqttExporterConfig} {s s' : State} {input : Input} {events : List Event}
    (action : step config s input = some (s', events)) : events.length ≤ 1 := by
  cases step_cases action
  case polled taken notification connection running reported =>
      rcases pollStep_events reported with rfl | rfl | rfl <;> simp
  all_goals simp

end BusExporter.Mqtt
