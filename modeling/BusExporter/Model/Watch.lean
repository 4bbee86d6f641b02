import BusExporter.Lib.Machine
import BusExporter.Model.Commands
import BusExporter.Model.Metrics

/-! The watch command (`commands/watch.rs`): collections one after the other until the token is cancelled, a line
for each and a summary of them all. What the devices do between two collections, and the parser of durations, are
parameters. -/

namespace BusExporter.Watch
open Lib Config

structure Line where
  timestamp : SystemTime
  iteration : Nat
  report : Report
  totalCollectors : Nat

structure Summary where
  totalIterations : Nat
  totalSuccessful : Nat
  totalFailed : Nat
deriving DecidableEq

/-- Where the loop stands: about to look at the token, in a collection, or at the `select!`. -/
inductive Pc
  | head
  | collecting (timestamp : SystemTime)
  | sleeping
  | exited (code : Nat)
  | panicked (cause : Panic)

structure State (ω : Type) where
  pc : Pc := .head
  world : ω
  iteration : Nat := 0
  totalSuccessful : Nat := 0
  totalFailed : Nat := 0

inductive Wake
  | cancelled
  | slept

inductive Input (ω : Type)
  | task (now : SystemTime) (wake : Wake)
  | pass (world : ω)

inductive Event
  | line (l : Line)
  | slept (d : Duration)
  | summary (s : Summary) (code : Nat)

section Steps
variable {ω : Type} (collect : List CollectorConfig → ω → Except Panic (Report × ω)) (cancelled : ω → Bool)
  (collectors : List CollectorConfig) (interval : Duration)

namespace State
variable (s : State ω)

def summary : Summary := ⟨s.iteration, s.totalSuccessful, s.totalFailed⟩

def exitCode : Nat := if 0 < s.totalFailed then 2 else 0

def finish : State ω × List Event := ({ s with pc := .exited s.exitCode }, [.summary s.summary s.exitCode])

def collected (timestamp : SystemTime) (report : Report) (world : ω) : State ω × List Event :=
  ({ s with
      pc := .sleeping
      world
      totalSuccessful := s.totalSuccessful + report.successful
      totalFailed := s.totalFailed + report.failed },
    [.line ⟨timestamp, s.iteration, report, collectors.length⟩])

end State

def taskStep (now : SystemTime) (wake : Wake) (s : State ω) : Option (State ω × List Event) :=
  match s.pc with
  | .head =>
      if cancelled s.world then some s.finish
      else some ({ s with pc := .collecting now, iteration := s.iteration + 1 }, [])
  -- the token is not looked at again before the line is printed
  | .collecting timestamp =>
      match collect collectors s.world with
      | .error cause => some ({ s with pc := .panicked cause }, [])
      | .ok (report, world) => some (s.collected collectors timestamp report world)
  | .sleeping =>
      match wake with
      | .cancelled => if cancelled s.world then some s.finish else none
      | .slept => some ({ s with pc := .head }, [.slept interval])
  | .exited _ | .panicked _ => none

def step (s : State ω) : Input ω → Option (State ω × List Event)
  | .task now wake => taskStep collect cancelled collectors interval now wake s
  -- a cancelled token stays cancelled
  | .pass world => if cancelled s.world && !cancelled world then none else some ({ s with world }, [])

def machine : Machine (State ω) (Input ω) Event := ⟨step collect cancelled collectors interval⟩

end Steps

def overridden (interval : Option Duration) (c : CollectorConfig) : CollectorConfig :=
  match interval with
  | some pollingInterval => { c with pollingInterval }
  | none => c

def loopInterval (collectors : List CollectorConfig) : Duration :=
  ((collectors.map (·.pollingInterval)).min?).getD (Duration.fromSecs 10)

def intervalOverride (parse : String → Except String Duration) : Option String → Result (Option Duration)
  | none => .ok none
  | some s =>
      match parse s with
      | .error e => .error ⟨s!"invalid --interval '{s}': {e}", []⟩
      | .ok dur => if dur = 0 then .error ⟨"--interval must be > 0", []⟩ else .ok (some dur)

def watchCommand (compile : String → Result (String → Bool)) (parse : String → Except String Duration)
    (config : Config) (collector metric interval : Option String) : Result (List CollectorConfig × Duration) := do
  let filteredCollectors ← filterCollectors compile config.collectors collector metric
  if filteredCollectors.isEmpty then .error ⟨"no collectors/metrics match the given filters", []⟩
  else
    let override ← intervalOverride parse interval
    let filteredCollectors := filteredCollectors.map (overridden override)
    .ok (filteredCollectors, loopInterval filteredCollectors)

end BusExporter.Watch
