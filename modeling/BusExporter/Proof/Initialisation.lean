import BusExporter.Proof.CollectorSteps

/-! A collector with init writes reads only from a device initialised since its latest connect. -/

namespace BusExporter.Collector
open Lib Config

variable {σ : Type} {t : Task σ}

def Event.touchesConnection : Event σ → Bool
  | .connect _ | .disconnect => true
  | _ => false

def Initialised (t : Task σ) (trace : List (Event σ)) : Prop :=
  ∃ earlier found first last later,
    trace = earlier ++ .connect true :: .initWrites first t.collector.initWrites true last :: later ∧
      t.reader.connect found = (.ok (), first) ∧ executeWrites t t.collector.initWrites first = (.ok (), last) ∧
        ∀ e ∈ later, e.touchesConnection = false

theorem Initialised.append {trace events : List (Event σ)} (initialised : Initialised t trace)
    (quiet : ∀ e ∈ events, e.touchesConnection = false) : Initialised t (trace ++ events) := by
  obtain ⟨earlier, found, first, last, later, rfl, connected, written, steady⟩ := initialised
  exact ⟨earlier, found, first, last, later ++ events, by simp, connected, written,
    List.forall_mem_append.mpr ⟨steady, quiet⟩⟩

def Pc.initialising : Pc → Bool
  | .initWrites | .reconnectInitWrites => true
  | _ => false

def Pc.polling : Pc → Bool
  | .cycleStart | .shutdownCheck | .prePoll | .skip | .skipWait | .prePollAbort | .read
  | .results _ _ | .abort _ | .publish _ | .endWait => true
  | _ => false

theorem polling_step {s s' : State σ} {events : List (Event σ)}
    (writes : needsWrites t t.collector.initWrites = true) (step : TaskStep t s s' events)
    (arrived : s'.pc.polling = true) :
    (s.pc.initialising = true ∧ events = [.initWrites s.world t.collector.initWrites true s'.world] ∧
        executeWrites t t.collector.initWrites s.world = (.ok (), s'.world)) ∨
      (s.pc.polling = true ∧ ∀ e ∈ events, e.touchesConnection = false) := by
  cases step
  -- with init writes to do, a connect does not lead to the loop at once
  case connected place ok | reconnected place ok =>
      simp only [State.afterConnect, if_pos writes] at arrived
      cases arrived
  case initialised place ok =>
      refine .inl ⟨?_, rfl, ok⟩
      rcases place with place | place <;> rw [place] <;> rfl
  case nextCycle place =>
      refine .inr ⟨?_, by simp⟩
      rcases place with place | place <;> rw [place] <;> rfl
  case connectSlept | initFailed | connectFailed | connectStopped | initStopped | shutdownSeen
      | skipStopped | prePollAborted | readPanicked | aborted | endStopped | disconnected
      | reconnectSlept | reconnectStopped | reconnectFailed | reinitFailed => cases arrived
  all_goals
    refine .inr ⟨?_, ?_⟩
    · simp [*, Pc.polling]
    · simp [Event.touchesConnection, publishStep]

variable (t)

end BusExporter.Collector
