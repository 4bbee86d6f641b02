import BusExporter.Lib.Machine
import Mathlib.Logic.Function.Basic

/-! Work on shared states in critical sections: each job takes the lock of its key and then that of its own
resource, does its work action by action, and gives the locks back. Whatever the interleaving, the jobs of each key
come out as if one had been done after the other. -/

namespace BusExporter.Lib

/-- Work on a state, action by action; what follows an action may depend on the state that it found. -/
inductive Work (ω α : Type)
  | done (a : α)
  | act (effect : ω → ω) (next : ω → Work ω α)

namespace Work
variable {ω α β : Type}

def run : Work ω α → ω → α × ω
  | done a, w => (a, w)
  | act effect next, w => (next w).run (effect w)

def bind : Work ω α → (α → Work ω β) → Work ω β
  | done a, f => f a
  | act effect next, f => act effect fun w => (next w).bind f

instance : Monad (Work ω) where
  pure := done
  bind := bind

def op (f : ω → α × ω) : Work ω α := act (fun w => (f w).2) fun w => done (f w).1

@[simp] theorem run_op (f : ω → α × ω) (w : ω) : (op f).run w = f w := rfl

@[simp] theorem run_bind (work : Work ω α) (f : α → Work ω β) (w : ω) :
    (work >>= f).run w = (f (work.run w).1).run (work.run w).2 := by
  induction work generalizing w with
  | done a => rfl
  | act effect next ih => exact ih w (effect w)

end Work

namespace Critical

inductive Phase (ω α : Type)
  | waiting
  | entered
  | working (rest : Work ω α)
  | left (a : α)
  | returned

def Phase.inside {ω α : Type} : Phase ω α → Bool
  | entered | working _ | left _ => true
  | waiting | returned => false

structure Jobs (κ δ τ ω α : Type) where
  key : δ → κ
  resource : τ → δ
  work : τ → Work ω α

def Jobs.lock {κ δ τ ω α : Type} (J : Jobs κ δ τ ω α) (job : τ) : κ := J.key (J.resource job)

structure State (κ δ τ ω α : Type) where
  jobs : Nat → Option (τ × Phase ω α) := fun _ => none
  holder : κ → Option Nat := fun _ => none
  owner : δ → Option Nat := fun _ => none
  world : κ → ω

inductive Input (τ : Type)
  | spawn (i : Nat) (job : τ)
  | step (i : Nat)

inductive Event (τ α : Type)
  | spawned (i : Nat) (job : τ)
  | locked (i : Nat) (job : τ)
  | returned (i : Nat) (job : τ) (a : α)

section Machines
variable {κ δ τ ω α : Type} [DecidableEq κ] [DecidableEq δ] (J : Jobs κ δ τ ω α)

def State.put (s : State κ δ τ ω α) (i : Nat) (job : τ) (phase : Phase ω α) : State κ δ τ ω α :=
  { s with jobs := Function.update s.jobs i (some (job, phase)) }

def Jobs.jobStep (s : State κ δ τ ω α) (i : Nat) (job : τ) :
    Phase ω α → Option (State κ δ τ ω α × List (Event τ α))
  | .waiting =>
      if s.holder (J.lock job) = none then
        some ({ s.put i job .entered with holder := Function.update s.holder (J.lock job) (some i) },
          [.locked i job])
      else none
  | .entered =>
      if s.owner (J.resource job) = none then
        some ({ s.put i job (.working (J.work job)) with
          owner := Function.update s.owner (J.resource job) (some i) }, [])
      else none
  | .working (.act effect next) =>
      some ({ s.put i job (.working (next (s.world (J.lock job)))) with
        world := Function.update s.world (J.lock job) (effect (s.world (J.lock job))) }, [])
  -- the guards are dropped in the reverse of the order in which they were taken
  | .working (.done a) =>
      some ({ s.put i job (.left a) with owner := Function.update s.owner (J.resource job) none }, [])
  | .left a =>
      some ({ s.put i job .returned with holder := Function.update s.holder (J.lock job) none },
        [.returned i job a])
  | .returned => none

def Jobs.step (s : State κ δ τ ω α) : Input τ → Option (State κ δ τ ω α × List (Event τ α))
  | .spawn i job => if s.jobs i = none then some (s.put i job .waiting, [.spawned i job]) else none
  | .step i =>
      match s.jobs i with
      | none => none
      | some (job, phase) => J.jobStep s i job phase

def Jobs.machine : Machine (State κ δ τ ω α) (Input τ) (Event τ α) := ⟨J.step⟩

inductive Acts (s : State κ δ τ ω α) : State κ δ τ ω α → List (Event τ α) → Prop
  | spawned {i : Nat} (job : τ) (fresh : s.jobs i = none) :
      Acts s (s.put i job .waiting) [.spawned i job]
  | locked {i : Nat} {job : τ} (place : s.jobs i = some (job, .waiting))
      (free : s.holder (J.lock job) = none) :
      Acts s { s.put i job .entered with holder := Function.update s.holder (J.lock job) (some i) }
        [.locked i job]
  | acquired {i : Nat} {job : τ} (place : s.jobs i = some (job, .entered))
      (free : s.owner (J.resource job) = none) :
      Acts s { s.put i job (.working (J.work job)) with owner := Function.update s.owner (J.resource job) (some i) } []
  | acted {i : Nat} {job : τ} {effect : ω → ω} {next : ω → Work ω α}
      (place : s.jobs i = some (job, .working (.act effect next))) :
      Acts s
        { s.put i job (.working (next (s.world (J.lock job)))) with
          world := Function.update s.world (J.lock job) (effect (s.world (J.lock job))) } []
  | released {i : Nat} {job : τ} {a : α} (place : s.jobs i = some (job, .working (.done a))) :
      Acts s { s.put i job (.left a) with owner := Function.update s.owner (J.resource job) none } []
  | returned {i : Nat} {job : τ} {a : α} (place : s.jobs i = some (job, .left a)) :
      Acts s { s.put i job .returned with holder := Function.update s.holder (J.lock job) none }
        [.returned i job a]

variable {J} {s s' : State κ δ τ ω α} {events : List (Event τ α)}

theorem step_cases {input : Input τ} (action : J.step s input = some (s', events)) : Acts J s s' events := by
  cases input with
  | spawn i job =>
      simp only [Jobs.step] at action
      split_ifs at action with fresh
      cases action
      exact .spawned job fresh
  | step i =>
      simp only [Jobs.step] at action
      split at action
      · cases action
      · rename_i job phase place
        cases phase with
        | waiting =>
            simp only [Jobs.jobStep] at action
            split_ifs at action with free
            cases action
            exact .locked place free
        | entered =>
            simp only [Jobs.jobStep] at action
            split_ifs at action with free
            cases action
            exact .acquired place free
        | working rest =>
            cases rest with
            | done a =>
                cases action
                exact .released place
            | act effect next =>
                cases action
                exact .acted place
        | left a =>
            cases action
            exact .returned place
        | returned => cases action

end Machines

section Exclusion
variable {κ δ τ ω α : Type} {J : Jobs κ δ τ ω α} {s s' : State κ δ τ ω α}

def Phase.rest : Phase ω α → Option (Work ω α)
  | .working rest => some rest
  | _ => none

theorem entry_eq {i : Nat} {job job' : τ} {phase phase' : Phase ω α} (place : s.jobs i = some (job, phase))
    (place' : s.jobs i = some (job', phase')) : job = job' ∧ phase = phase' := by
  rw [place, Option.some.injEq, Prod.mk.injEq] at place'
  exact place'

structure Guarded (J : Jobs κ δ τ ω α) (s : State κ δ τ ω α) : Prop where
  holder : ∀ k i, s.holder k = some i ↔
    ∃ job phase, s.jobs i = some (job, phase) ∧ phase.inside = true ∧ J.lock job = k
  owner : ∀ d i, s.owner d = some i ↔
    ∃ job phase, s.jobs i = some (job, phase) ∧ phase.rest.isSome = true ∧ J.resource job = d

theorem Guarded.put (guarded : Guarded J s) {i : Nat} {job : τ} {phase : Phase ω α}
    (jobs : s'.jobs = Function.update s.jobs i (some (job, phase)))
    (holder : ∀ k j, s'.holder k = some j ↔
      if j = i then phase.inside = true ∧ J.lock job = k else s.holder k = some j)
    (owner : ∀ d j, s'.owner d = some j ↔
      if j = i then phase.rest.isSome = true ∧ J.resource job = d else s.owner d = some j) : Guarded J s' := by
  constructor
  · intro k j
    rw [holder, jobs]
    split_ifs with same
    · subst same
      simp [Function.update_self]
    · rw [Function.update_of_ne same]
      exact guarded.holder k j
  · intro d j
    rw [owner, jobs]
    split_ifs with same
    · subst same
      simp [Function.update_self]
    · rw [Function.update_of_ne same]
      exact guarded.owner d j

theorem Guarded.holder_kept (guarded : Guarded J s) {i : Nat} {job : τ} {before phase : Phase ω α}
    (place : s.jobs i = some (job, before)) (same : before.inside = phase.inside) (k : κ) (j : Nat) :
    s.holder k = some j ↔
      if j = i then phase.inside = true ∧ J.lock job = k else s.holder k = some j := by
  split_ifs with here
  · rw [guarded.holder, here, place, ← same]
    simp
  · rfl

theorem Guarded.owner_kept (guarded : Guarded J s) {i : Nat} {job : τ} {before phase : Phase ω α}
    (place : s.jobs i = some (job, before)) (same : before.rest.isSome = phase.rest.isSome) (d : δ) (j : Nat) :
    s.owner d = some j ↔
      if j = i then phase.rest.isSome = true ∧ J.resource job = d else s.owner d = some j := by
  split_ifs with here
  · rw [guarded.owner, here, place, ← same]
    simp
  · rfl

theorem Guarded.apart (guarded : Guarded J s) {i j : Nat} {k : κ} {job : τ} {phase : Phase ω α}
    (place : s.jobs i = some (job, phase)) (other : J.lock job = k → phase.inside = false)
    (held : s.holder k = some j) : j ≠ i := by
  rintro rfl
  obtain ⟨job', phase', place', inside, same⟩ := (guarded.holder k j).mp held
  obtain ⟨rfl, rfl⟩ := entry_eq place place'
  rw [other same] at inside
  cases inside

/-- The lock of a resource is never in the way of a job that holds the lock of its key. -/
theorem Guarded.unowned (guarded : Guarded J s) {i : Nat} {job : τ}
    (place : s.jobs i = some (job, .entered)) : s.owner (J.resource job) = none := by
  cases taken : s.owner (J.resource job) with
  | none => rfl
  | some j =>
      obtain ⟨job', phase, place', working, same⟩ := (guarded.owner _ j).mp taken
      have inside : phase.inside = true := by
        cases phase <;> first | rfl | cases working
      have mine := (guarded.holder (J.lock job) i).mpr ⟨job, _, place, rfl, rfl⟩
      have others := (guarded.holder (J.lock job) j).mpr ⟨job', phase, place', inside, congrArg J.key same⟩
      obtain rfl : i = j := Option.some.inj (mine.symm.trans others)
      obtain ⟨-, rfl⟩ := entry_eq place place'
      cases working

end Exclusion

section Guards
variable {κ δ τ ω α : Type} [DecidableEq κ] [DecidableEq δ] {J : Jobs κ δ τ ω α} {s s' : State κ δ τ ω α}
  {trace events : List (Event τ α)}

theorem guarded_step (guarded : Guarded J s) (acts : Acts J s s' events) : Guarded J s' := by
  cases acts with
  | @spawned i job fresh =>
      apply guarded.put rfl
      · intro k j
        split_ifs with here
        · simp [State.put, Phase.inside, guarded.holder, here, fresh]
        · rfl
      · intro d j
        split_ifs with here
        · simp [State.put, Phase.rest, guarded.owner, here, fresh]
        · rfl
  | @locked i job place free =>
      apply guarded.put rfl
      · intro k j
        have holder := guarded.holder k j
        simp only [Phase.inside, Function.update_apply]
        grind [Phase.inside]
      · exact guarded.owner_kept place rfl
  | @acquired i job place free =>
      apply guarded.put rfl
      · exact guarded.holder_kept place rfl
      · intro d j
        have owner := guarded.owner d j
        simp only [Phase.rest, Function.update_apply]
        grind [Phase.rest]
  | @acted i job effect next place =>
      apply guarded.put rfl
      · exact guarded.holder_kept place rfl
      · exact guarded.owner_kept place rfl
  | @released i job a place =>
      apply guarded.put rfl
      · exact guarded.holder_kept place rfl
      · intro d j
        have owner := guarded.owner d j
        have mine := guarded.owner (J.resource job) i
        simp only [Phase.rest, Function.update_apply]
        grind [Phase.rest]
  | @returned i job a place =>
      apply guarded.put rfl
      · intro k j
        have holder := guarded.holder k j
        have mine := guarded.holder (J.lock job) i
        simp only [Phase.inside, Function.update_apply]
        grind [Phase.inside]
      · exact guarded.owner_kept place rfl

theorem guarded_run {worlds : κ → ω} (run : J.machine.Run { world := worlds } trace s) : Guarded J s := by
  refine run.invariant (P := fun _ s => Guarded J s) ⟨by simp, by simp⟩ ?_
  intro trace s input s' events _ guarded action
  exact guarded_step guarded (step_cases action)

end Guards

section Whole
variable {κ δ τ ω α : Type} (J : Jobs κ δ τ ω α)

def serial : List (Nat × τ) → ω → List (Nat × α) × ω
  | [], w => ([], w)
  | (i, job) :: rest, w =>
      let (a, w) := (J.work job).run w
      let (answers, w) := serial rest w
      ((i, a) :: answers, w)

theorem serial_append (earlier : List (Nat × τ)) (i : Nat) (job : τ) (w : ω) :
    serial J (earlier ++ [(i, job)]) w =
      ((serial J earlier w).1 ++ [(i, ((J.work job).run (serial J earlier w).2).1)],
        ((J.work job).run (serial J earlier w).2).2) := by
  induction earlier generalizing w with
  | nil => rfl
  | cons head earlier ih =>
      obtain ⟨j, other⟩ := head
      simp only [List.cons_append, serial, ih]

end Whole

section Serial
variable {κ δ τ ω α : Type} [DecidableEq κ] {J : Jobs κ δ τ ω α} {s s' : State κ δ τ ω α}
  {trace events : List (Event τ α)}

def lockedOn (J : Jobs κ δ τ ω α) (k : κ) : Event τ α → Option (Nat × τ)
  | .locked i job => if J.lock job = k then some (i, job) else none
  | _ => none

def returnedOn (J : Jobs κ δ τ ω α) (k : κ) : Event τ α → Option (Nat × α)
  | .returned i job a => if J.lock job = k then some (i, a) else none
  | _ => none

def Comes (J : Jobs κ δ τ ω α) (job : τ) (found : ω) (w : ω) : Phase ω α → Prop
  | .entered => w = found
  | .working rest => rest.run w = (J.work job).run found
  | .left a => (a, w) = (J.work job).run found
  | .waiting | .returned => False

structure Serialised (J : Jobs κ δ τ ω α) (first : ω) (k : κ) (trace : List (Event τ α)) (s : State κ δ τ ω α) :
    Prop where
  free : s.holder k = none →
    serial J (trace.filterMap (lockedOn J k)) first = (trace.filterMap (returnedOn J k), s.world k)
  held : ∀ i, s.holder k = some i → ∃ earlier job phase, s.jobs i = some (job, phase) ∧
    trace.filterMap (lockedOn J k) = earlier ++ [(i, job)] ∧
    trace.filterMap (returnedOn J k) = (serial J earlier first).1 ∧
    Comes J job (serial J earlier first).2 (s.world k) phase

theorem Serialised.elsewhere {first : ω} {k : κ} (serialised : Serialised J first k trace s)
    (holder : s'.holder k = s.holder k) (world : s'.world k = s.world k)
    (jobs : ∀ i, s.holder k = some i → s'.jobs i = s.jobs i) (quiet : events.filterMap (lockedOn J k) = [])
    (silent : events.filterMap (returnedOn J k) = []) : Serialised J first k (trace ++ events) s' := by
  constructor
  · intro free
    rw [List.filterMap_append, List.filterMap_append, quiet, silent, List.append_nil, List.append_nil, world]
    exact serialised.free (holder ▸ free)
  · intro i taken
    rw [holder] at taken
    rw [List.filterMap_append, List.filterMap_append, quiet, silent, List.append_nil, List.append_nil, world,
      jobs i taken]
    exact serialised.held i taken

theorem Serialised.worked {first : ω} {k : κ} (guarded : Guarded J s) (serialised : Serialised J first k trace s)
    {i : Nat} {job : τ} {phase phase' : Phase ω α} (place : s.jobs i = some (job, phase))
    (inside : phase.inside = true) (jobs : s'.jobs = Function.update s.jobs i (some (job, phase')))
    (holder : s'.holder = s.holder) (world : ∀ k, k ≠ J.lock job → s'.world k = s.world k)
    (comes : ∀ found, Comes J job found (s.world (J.lock job)) phase →
      Comes J job found (s'.world (J.lock job)) phase') : Serialised J first k (trace ++ []) s' := by
  by_cases same : J.lock job = k
  · subst same
    have mine : s.holder (J.lock job) = some i := (guarded.holder _ i).mpr ⟨job, phase, place, inside, rfl⟩
    rw [List.append_nil]
    constructor
    · intro free
      rw [holder, mine] at free
      cases free
    · intro j taken
      rw [holder, mine, Option.some.injEq] at taken
      subst taken
      obtain ⟨earlier, job', phase₀, place', locked, returned, before⟩ := serialised.held i mine
      obtain ⟨rfl, rfl⟩ := entry_eq place place'
      exact ⟨earlier, job, phase', by rw [jobs, Function.update_self], locked, returned, comes _ before⟩
  · refine serialised.elsewhere (by rw [holder]) (world k (Ne.symm same)) ?_ rfl rfl
    intro j held
    rw [jobs, Function.update_of_ne (guarded.apart place (fun here => absurd here same) held)]

end Serial

section SerialRuns
variable {κ δ τ ω α : Type} [DecidableEq κ] [DecidableEq δ] {J : Jobs κ δ τ ω α} {s s' : State κ δ τ ω α}
  {trace events : List (Event τ α)}

theorem serialised_step {first : ω} {k : κ} (guarded : Guarded J s) (serialised : Serialised J first k trace s)
    (acts : Acts J s s' events) : Serialised J first k (trace ++ events) s' := by
  cases acts with
  | @spawned i job fresh =>
      refine serialised.elsewhere rfl rfl ?_ rfl rfl
      intro j held
      obtain ⟨job', phase, place, -⟩ := (guarded.holder k j).mp held
      have different : j ≠ i := by
        rintro rfl
        rw [fresh] at place
        cases place
      exact Function.update_of_ne different ..
  | @locked i job place free =>
      by_cases same : J.lock job = k
      · subst same
        have before := serialised.free free
        have locks : (trace ++ [Event.locked i job]).filterMap (lockedOn J (J.lock job)) =
            trace.filterMap (lockedOn J (J.lock job)) ++ [(i, job)] := by
          rw [List.filterMap_append]
          simp [lockedOn]
        have returns : (trace ++ [Event.locked i job]).filterMap (returnedOn J (J.lock job)) =
            trace.filterMap (returnedOn J (J.lock job)) := by
          rw [List.filterMap_append]
          simp [returnedOn]
        constructor
        · intro unheld
          simp at unheld
        · intro j taken
          simp only [Function.update_self, Option.some.injEq] at taken
          subst taken
          refine ⟨_, job, .entered, Function.update_self .., locks, ?_, ?_⟩
          · rw [returns, before]
          · rw [before]
            rfl
      · refine serialised.elsewhere (Function.update_of_ne (Ne.symm same) ..) rfl ?_ ?_ rfl
        · intro j held
          exact Function.update_of_ne (guarded.apart place (fun _ => rfl) held) ..
        · simp [lockedOn, same]
  | @acquired i job place free =>
      refine serialised.worked guarded place rfl rfl rfl (fun _ _ => rfl) ?_
      intro found before
      exact congrArg (J.work job).run before
  | @acted i job effect next place =>
      refine serialised.worked guarded place rfl rfl rfl (fun k other => Function.update_of_ne other ..) ?_
      intro whole before
      have found : Function.update s.world (J.lock job) (effect (s.world (J.lock job))) (J.lock job) =
        effect (s.world (J.lock job)) := Function.update_self ..
      simp only [Comes, found]
      exact before
  | @released i job a place => exact serialised.worked guarded place rfl rfl rfl (fun _ _ => rfl) fun _ before => before
  | @returned i job a place =>
      by_cases same : J.lock job = k
      · subst same
        have mine : s.holder (J.lock job) = some i := (guarded.holder _ i).mpr ⟨job, _, place, rfl, rfl⟩
        obtain ⟨earlier, job', phase, place', locked, returned, comes⟩ := serialised.held i mine
        obtain ⟨rfl, rfl⟩ := entry_eq place place'
        have whole : (a, s.world (J.lock job)) = (J.work job).run (serial J earlier first).2 := comes
        constructor
        · intro unheld
          have locks : (trace ++ [Event.returned i job a]).filterMap (lockedOn J (J.lock job)) =
              earlier ++ [(i, job)] := by
            rw [List.filterMap_append, locked]
            exact List.append_nil _
          have returns : (trace ++ [Event.returned i job a]).filterMap (returnedOn J (J.lock job)) =
              (serial J earlier first).1 ++ [(i, a)] := by
            rw [List.filterMap_append, returned]
            simp [returnedOn]
          rw [locks, returns, serial_append, ← whole]
          rfl
        · intro j taken
          simp at taken
      · refine serialised.elsewhere (Function.update_of_ne (Ne.symm same) ..) rfl ?_ rfl ?_
        · intro j held
          exact Function.update_of_ne (guarded.apart place (fun here => absurd here same) held) ..
        · simp [returnedOn, same]

theorem serialised_run {worlds : κ → ω} (run : J.machine.Run { world := worlds } trace s) (k : κ) :
    Serialised J (worlds k) k trace s := by
  refine (run.invariant (P := fun trace s => Guarded J s ∧ Serialised J (worlds k) k trace s)
    ⟨⟨by simp, by simp⟩, fun _ => rfl, by simp⟩ ?_).2
  intro trace s input s' events _ before action
  exact ⟨guarded_step before.1 (step_cases action), serialised_step before.1 before.2 (step_cases action)⟩

/-- The answers on a key come in the order of its locks, and are those of the jobs done one after the other. -/
theorem answers_serial {worlds : κ → ω} (run : J.machine.Run { world := worlds } trace s) (k : κ) :
    trace.filterMap (returnedOn J k) <+: (serial J (trace.filterMap (lockedOn J k)) (worlds k)).1 ∧
      (s.holder k = none → s.world k = (serial J (trace.filterMap (lockedOn J k)) (worlds k)).2) := by
  have serialised := serialised_run run k
  cases taken : s.holder k with
  | none =>
      rw [serialised.free taken]
      exact ⟨List.prefix_refl _, fun _ => rfl⟩
  | some i =>
      obtain ⟨earlier, job, phase, -, locked, returned, -⟩ := serialised.held i taken
      rw [locked, returned, serial_append]
      exact ⟨List.prefix_append _ _, by simp⟩

end SerialRuns

section Told
variable {κ δ τ ω α : Type} {s s' : State κ δ τ ω α} {trace events : List (Event τ α)}

def Event.id : Event τ α → Nat
  | .spawned i _ | .locked i _ | .returned i _ _ => i

def Told (i : Nat) (own : List (Event τ α)) : Option (τ × Phase ω α) → Prop
  | none => own = []
  | some (job, .waiting) => own = [.spawned i job]
  | some (job, .returned) => ∃ a, own = [.spawned i job, .locked i job, .returned i job a]
  | some (job, _) => own = [.spawned i job, .locked i job]

theorem told_put {i : Nat} {entry : Option (τ × Phase ω α)}
    (told : ∀ j, Told j (trace.filter (·.id = j)) (s.jobs j)) (jobs : s'.jobs = Function.update s.jobs i entry)
    (own : ∀ e ∈ events, e.id = i) (mine : Told i (trace.filter (·.id = i) ++ events) entry) (j : Nat) :
    Told j ((trace ++ events).filter (·.id = j)) (s'.jobs j) := by
  rw [List.filter_append, jobs]
  by_cases same : j = i
  · subst same
    have all : events.filter (·.id = j) = events := List.filter_eq_self.mpr (by simpa using own)
    rw [all, Function.update_self]
    exact mine
  · have none : events.filter (·.id = j) = [] := by
      refine List.filter_eq_nil_iff.mpr ?_
      intro e member here
      exact same ((of_decide_eq_true here).symm.trans (own e member))
    rw [none, List.append_nil, Function.update_of_ne same]
    exact told j

end Told

section Events
variable {κ δ τ ω α : Type} [DecidableEq κ] [DecidableEq δ] {J : Jobs κ δ τ ω α} {s s' : State κ δ τ ω α}
  {trace events : List (Event τ α)}

theorem told_step (told : ∀ i, Told i (trace.filter (·.id = i)) (s.jobs i)) (acts : Acts J s s' events) :
    ∀ i, Told i ((trace ++ events).filter (·.id = i)) (s'.jobs i) := by
  cases acts with
  | @spawned i job fresh =>
      have before := told i
      rw [fresh] at before
      refine told_put told rfl (by simp [Event.id]) ?_
      rw [show trace.filter (·.id = i) = [] from before]
      rfl
  | @locked i job place free =>
      have before := told i
      rw [place] at before
      refine told_put told rfl (by simp [Event.id]) ?_
      rw [show trace.filter (·.id = i) = [.spawned i job] from before]
      rfl
  | @returned i job a place =>
      have before := told i
      rw [place] at before
      refine told_put told rfl (by simp [Event.id]) ?_
      rw [show trace.filter (·.id = i) = [.spawned i job, .locked i job] from before]
      exact ⟨a, rfl⟩
  | @acquired i job place _ | @acted i job _ _ place | @released i job _ place =>
      have before := told i
      rw [place] at before
      refine told_put told rfl (by simp) ?_
      rw [List.append_nil]
      exact before

theorem told_run {worlds : κ → ω} (run : J.machine.Run { world := worlds } trace s) :
    ∀ i, Told i (trace.filter (·.id = i)) (s.jobs i) := by
  refine run.invariant (P := fun trace s => ∀ i, Told i (trace.filter (·.id = i)) (s.jobs i)) ?_ ?_
  · exact fun i => rfl
  intro trace s input s' events _ told action
  exact told_step told (step_cases action)

theorem events_of_job {worlds : κ → ω} (run : J.machine.Run { world := worlds } trace s) {i : Nat}
    {job : τ} {a : α} (returned : .returned i job a ∈ trace) :
    trace.filter (·.id = i) = [.spawned i job, .locked i job, .returned i job a] := by
  have told := told_run run i
  have member : .returned i job a ∈ trace.filter (·.id = i) := List.mem_filter.mpr ⟨returned, by simp [Event.id]⟩
  cases entry : s.jobs i with
  | none =>
      rw [entry] at told
      rw [show trace.filter (·.id = i) = [] from told] at member
      cases member
  | some entry' =>
      obtain ⟨job', phase⟩ := entry'
      rw [entry] at told
      cases phase with
      | returned =>
          obtain ⟨b, own⟩ := told
          rw [own] at member ⊢
          simp only [List.mem_cons, reduceCtorEq, Event.returned.injEq, List.not_mem_nil, or_false, false_or] at member
          obtain ⟨-, rfl, rfl⟩ := member
          rfl
      | waiting =>
          rw [show trace.filter (·.id = i) = [.spawned i job'] from told] at member
          simp at member
      | entered | working | left =>
          rw [show trace.filter (·.id = i) = [.spawned i job', .locked i job'] from told] at member
          simp at member

end Events

section Returns
variable {κ δ τ ω α : Type} [DecidableEq κ] [DecidableEq δ] {J : Jobs κ δ τ ω α} {s s' : State κ δ τ ω α}
  {trace events : List (Event τ α)}

def After (J : Jobs κ δ τ ω α) (s : State κ δ τ ω α) (i : Nat) (job : τ) : Prop :=
  ∃ later s', J.machine.Run s later s' ∧ s'.jobs i = some (job, .returned) ∧ (∀ j, j ≠ i → s'.jobs j = s.jobs j) ∧
    s'.holder (J.lock job) = none

theorem after_step {i : Nat} {job : τ} {phase : Phase ω α} (place : s.jobs i = some (job, phase))
    (action : J.jobStep s i job phase = some (s', events)) (others : ∀ j, j ≠ i → s'.jobs j = s.jobs j)
    (after : After J s' i job) : After J s i job := by
  obtain ⟨later, s'', run, returned, kept, free⟩ := after
  have first : J.machine.Run s events s' := by
    refine Machine.Run.start.next (i := .step i) ?_
    simp only [Jobs.machine, Jobs.step, place]
    exact action
  exact ⟨events ++ later, s'', first.trans run, returned, fun j other => (kept j other).trans (others j other), free⟩

theorem after_left {i : Nat} {job : τ} {a : α} (place : s.jobs i = some (job, .left a)) : After J s i job :=
  after_step place rfl (fun _ other => Function.update_of_ne other ..)
    ⟨[], _, .start, Function.update_self .., fun _ _ => rfl, Function.update_self ..⟩

theorem after_working {i : Nat} {job : τ} {rest : Work ω α} (place : s.jobs i = some (job, .working rest)) :
    After J s i job := by
  induction rest generalizing s with
  | done a =>
      exact after_step place rfl (fun _ other => Function.update_of_ne other ..)
        (after_left (Function.update_self ..))
  | act effect next ih =>
      exact after_step place rfl (fun _ other => Function.update_of_ne other ..) (ih _ (Function.update_self ..))

theorem after_entered (guarded : Guarded J s) {i : Nat} {job : τ} (place : s.jobs i = some (job, .entered)) :
    After J s i job :=
  after_step place (if_pos (guarded.unowned place)) (fun _ other => Function.update_of_ne other ..)
    (after_working (Function.update_self ..))

theorem after_waiting (guarded : Guarded J s) {i : Nat} {job : τ} (place : s.jobs i = some (job, .waiting))
    (free : s.holder (J.lock job) = none) : After J s i job := by
  have enters : Acts J s _ _ := .locked place free
  exact after_step place (if_pos free) (fun _ other => Function.update_of_ne other ..)
    (after_entered (guarded_step guarded enters) (Function.update_self ..))

theorem after_inside (guarded : Guarded J s) {i : Nat} {job : τ} {phase : Phase ω α}
    (place : s.jobs i = some (job, phase)) (inside : phase.inside = true) : After J s i job := by
  cases phase with
  | entered => exact after_entered guarded place
  | working rest => exact after_working place
  | left a => exact after_left place
  | waiting | returned => cases inside

/-- No run gets stuck: a job that was spawned can return from every state that is reached. -/
theorem can_return {worlds : κ → ω} (run : J.machine.Run { world := worlds } trace s) {i : Nat} {job : τ}
    {phase : Phase ω α} (place : s.jobs i = some (job, phase)) :
    ∃ later s', J.machine.Run s later s' ∧ s'.jobs i = some (job, .returned) := by
  have guarded := guarded_run run
  cases phase with
  | returned => exact ⟨[], s, .start, place⟩
  | waiting =>
      cases taken : s.holder (J.lock job) with
      | none =>
          obtain ⟨later, s', ends, returned, -⟩ := after_waiting guarded place taken
          exact ⟨later, s', ends, returned⟩
      | some j =>
          obtain ⟨other, phase, place', inside, same⟩ := (guarded.holder _ j).mp taken
          obtain ⟨first, s₁, others, -, kept, free⟩ := after_inside guarded place' inside
          have different : i ≠ j := by
            rintro rfl
            obtain ⟨-, rfl⟩ := entry_eq place place'
            cases inside
          rw [same] at free
          obtain ⟨later, s', ends, returned, -⟩ := after_waiting (guarded_run (run.trans others))
            ((kept i different).trans place) free
          exact ⟨first ++ later, s', others.trans ends, returned⟩
  | entered | working | left =>
      obtain ⟨later, s', ends, returned, -⟩ := after_inside guarded place rfl
      exact ⟨later, s', ends, returned⟩

end Returns

end Critical
end BusExporter.Lib
