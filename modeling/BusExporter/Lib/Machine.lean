import Mathlib.Data.List.DropRight
import Mathlib.Data.List.Basic
import Mathlib.Order.WellFounded
import Mathlib.Tactic.SplitIfs

/-! Machines that react to inputs and emit events: runs, the invariant rule, and what stands
before an event of a run. -/

namespace BusExporter.Lib

structure Machine (S I E : Type*) where
  step : S → I → Option (S × List E)

namespace Machine
variable {S I E : Type*} (M : Machine S I E)

inductive Run (initial : S) : List E → S → Prop
  | start : Run initial [] initial
  | next {trace : List E} {s s' : S} {i : I} {events : List E} :
      Run initial trace s → M.step s i = some (s', events) → Run initial (trace ++ events) s'

def exec (s : S) : List I → Option (List E × S)
  | [] => some ([], s)
  | i :: is =>
      match M.step s i with
      | none => none
      | some (s', events) => (exec s' is).map fun rest => (events ++ rest.1, rest.2)

variable {M}

theorem exec_cons {s s' : S} {i : I} {is : List I} {events : List E}
    (executed : M.exec s (i :: is) = some (events, s')) :
    ∃ first next rest, M.step s i = some (next, first) ∧ M.exec next is = some (rest, s') ∧
      events = first ++ rest := by
  simp only [exec] at executed
  split at executed
  · contradiction
  · rename_i next first action
    obtain ⟨⟨rest, last⟩, later, equal⟩ := Option.map_eq_some_iff.mp executed
    cases equal
    exact ⟨first, next, rest, action, later, rfl⟩

theorem exec_append {s s' : S} {events : List E} {is js : List I}
    (executed : M.exec s (is ++ js) = some (events, s')) :
    ∃ first middle rest, M.exec s is = some (first, middle) ∧ M.exec middle js = some (rest, s') ∧
      events = first ++ rest := by
  induction is generalizing s events with
  | nil => exact ⟨[], s, events, rfl, executed, rfl⟩
  | cons i is ih =>
      obtain ⟨front, next, later, action, done, rfl⟩ := exec_cons executed
      obtain ⟨first, middle, rest, before, after, rfl⟩ := ih done
      refine ⟨front ++ first, middle, rest, ?_, after, (List.append_assoc _ _ _).symm⟩
      simp only [exec, action, before, Option.map_some]

inductive RunWhere (M : Machine S I E) (allowed : S → I → Prop) (initial : S) : List E → S → Prop
  | start : RunWhere M allowed initial [] initial
  | next {trace events : List E} {s s' : S} {i : I} :
      RunWhere M allowed initial trace s → allowed s i → M.step s i = some (s', events) →
        RunWhere M allowed initial (trace ++ events) s'

theorem RunWhere.run {allowed : S → I → Prop} {initial s : S} {trace : List E}
    (run : M.RunWhere allowed initial trace s) : M.Run initial trace s := by
  induction run with
  | start => exact .start
  | next previous free action ih => exact ih.next action

theorem RunWhere.append_exec {allowed : S → I → Prop} {initial s s' : S} {trace events : List E}
    {is : List I} (run : M.RunWhere allowed initial trace s) (executed : M.exec s is = some (events, s'))
    (free : ∀ i ∈ is, ∀ s, allowed s i) : M.RunWhere allowed initial (trace ++ events) s' := by
  induction is generalizing trace s events with
  | nil =>
      cases executed
      simpa using run
  | cons i is ih =>
      obtain ⟨first, next, rest, action, later, rfl⟩ := exec_cons executed
      rw [← List.append_assoc]
      exact ih (run.next (free i (by simp) s) action) later fun i member => free i (by simp [member])

theorem Run.unrestricted {initial s : S} {trace : List E} (run : M.Run initial trace s) :
    M.RunWhere (fun _ _ => True) initial trace s := by
  induction run with
  | start => exact .start
  | next previous action ih => exact ih.next trivial action

theorem Run.append_exec {initial s s' : S} {trace events : List E} {is : List I}
    (run : M.Run initial trace s) (executed : M.exec s is = some (events, s')) :
    M.Run initial (trace ++ events) s' :=
  (run.unrestricted.append_exec executed fun _ _ _ => trivial).run

theorem Run.trans {initial s s' : S} {trace later : List E} (first : M.Run initial trace s)
    (second : M.Run s later s') : M.Run initial (trace ++ later) s' := by
  induction second with
  | start => simpa using first
  | next previous action ih =>
      rw [← List.append_assoc]
      exact ih.next action

theorem exec_run {initial s : S} {events : List E} {is : List I}
    (executed : M.exec initial is = some (events, s)) : M.Run initial events s :=
  Run.start.append_exec executed

theorem Run.invariant {initial : S} {P : List E → S → Prop} (start : P [] initial)
    (preserves : ∀ {trace s i s' events}, M.Run initial trace s → P trace s →
      M.step s i = some (s', events) → P (trace ++ events) s')
    {trace : List E} {s : S} (run : M.Run initial trace s) : P trace s := by
  induction run with
  | start => exact start
  | next previous action ih => exact preserves previous ih action

theorem Run.resumed {initial : S} {trace before after : List E} {e : E} {s : S}
    (run : M.Run initial trace s) (split : trace = before ++ e :: after) :
    ∃ earlier state i state' first last rest, M.Run initial earlier state ∧
      M.step state i = some (state', first ++ e :: last) ∧ before = earlier ++ first ∧
        after = last ++ rest ∧ M.Run state' rest s := by
  induction run generalizing after with
  | start => simp at split
  | @next earlier state state' i events previous action ih =>
      rcases List.append_eq_append_iff.mp split with ⟨first, rfl, rest⟩ | ⟨tail, same, rest⟩
      · refine ⟨earlier, state, i, state', first, after, [], previous, ?_, rfl, by simp, .start⟩
        rw [← rest]
        exact action
      · cases tail with
        | nil =>
            simp only [List.nil_append] at rest
            refine ⟨earlier, state, i, state', [], after, [], previous, ?_, ?_, by simp, .start⟩
            · rw [List.nil_append, rest]
              exact action
            · simpa using same.symm
        | cons head tail =>
            rw [List.cons_append, List.cons.injEq] at rest
            obtain ⟨rfl, rfl⟩ := rest
            obtain ⟨earlier', state₀, i', state₁, first, last, others, begun, step, front, back, resumed⟩ :=
              ih same
            exact ⟨earlier', state₀, i', state₁, first, last, others ++ events, begun, step, front,
              by rw [back, List.append_assoc], resumed.next action⟩

theorem Run.emitted {initial : S} {trace before after : List E} {e : E} {s : S}
    (run : M.Run initial trace s) (split : trace = before ++ e :: after) :
    ∃ earlier state i state' first last, M.Run initial earlier state ∧
      M.step state i = some (state', first ++ e :: last) ∧ before = earlier ++ first := by
  obtain ⟨earlier, state, i, state', first, last, -, previous, action, front, -, -⟩ := run.resumed split
  exact ⟨earlier, state, i, state', first, last, previous, action, front⟩

/-- A machine is simulated by another when each step is one of the other's that shows the same, or shows
nothing and leaves the other where it is. -/
theorem Run.simulated {S' I' E' : Type*} {N : Machine S' I' E'} (shown : E → Option E') {R : S → S' → Prop}
    {initial : S} {initial' : S'} (begins : R initial initial')
    (follows : ∀ {s u i s' events}, R s u → M.step s i = some (s', events) →
      (events.filterMap shown = [] ∧ R s' u) ∨
        ∃ j u', N.step u j = some (u', events.filterMap shown) ∧ R s' u')
    {trace : List E} {s : S} (run : M.Run initial trace s) :
    ∃ u, N.Run initial' (trace.filterMap shown) u ∧ R s u := by
  induction run with
  | start => exact ⟨initial', .start, begins⟩
  | @next trace s s' i events previous action ih =>
      obtain ⟨u, run, related⟩ := ih
      rw [List.filterMap_append]
      rcases follows related action with ⟨silent, stays⟩ | ⟨j, u', step, next⟩
      · rw [silent, List.append_nil]
        exact ⟨u, run, stays⟩
      · exact ⟨u', run.next step, next⟩

theorem RunWhere.trans {allowed : S → I → Prop} {initial s s' : S} {trace later : List E}
    (first : M.RunWhere allowed initial trace s) (second : M.RunWhere allowed s later s') :
    M.RunWhere allowed initial (trace ++ later) s' := by
  induction second with
  | start => simpa using first
  | next previous free action ih =>
      rw [← List.append_assoc]
      exact ih.next free action

def CanReach (M : Machine S I E) (allowed : S → I → Prop) (s : S) (goal : S → Prop) : Prop :=
  ∃ trace s', M.RunWhere allowed s trace s' ∧ goal s'

section Reaching
variable {allowed : S → I → Prop} {s s' : S} {goal middle : S → Prop}

theorem CanReach.here (met : goal s) : M.CanReach allowed s goal := ⟨[], s, .start, met⟩

theorem CanReach.once {i : I} {events : List E} (action : M.step s i = some (s', events)) (free : allowed s i)
    (met : goal s') : M.CanReach allowed s goal :=
  ⟨[] ++ events, s', RunWhere.start.next free action, met⟩

theorem CanReach.next (first : M.CanReach allowed s middle)
    (second : ∀ s', middle s' → M.CanReach allowed s' goal) : M.CanReach allowed s goal := by
  obtain ⟨trace, s', run, met⟩ := first
  obtain ⟨later, last, rest, reached⟩ := second s' met
  exact ⟨trace ++ later, last, run.trans rest, reached⟩

theorem CanReach.step {i : I} {events : List E} (action : M.step s i = some (s', events)) (free : allowed s i)
    (rest : M.CanReach allowed s' goal) : M.CanReach allowed s goal := by
  have first : M.CanReach allowed s (· = s') := .once action free rfl
  exact first.next fun _ same => same ▸ rest

theorem CanReach.mono (reach : M.CanReach allowed s middle) (implies : ∀ s', middle s' → goal s') :
    M.CanReach allowed s goal :=
  reach.next fun s' met => .here (implies s' met)

theorem CanReach.keeps {holds : S → Prop}
    (invariant : ∀ {s i s' events}, holds s → M.step s i = some (s', events) → holds s')
    (start : holds s) (reach : M.CanReach allowed s goal) :
    M.CanReach allowed s fun s' => holds s' ∧ goal s' := by
  obtain ⟨trace, s', run, met⟩ := reach
  refine ⟨trace, s', run, ?_, met⟩
  clear met
  induction run with
  | start => exact start
  | next previous free action ih => exact invariant ih action

/-- A rank that goes down along some allowed steps, wherever the goal is not reached yet, leads to the goal. -/
theorem CanReach.descends {α : Type*} [Preorder α] [WellFoundedLT α] (rank : S → α) (holds : S → Prop)
    (advances : ∀ s, holds s → goal s ∨ M.CanReach allowed s fun s' => holds s' ∧ rank s' < rank s)
    (start : holds s) : M.CanReach allowed s goal := by
  induction known : rank s using WellFoundedLT.induction generalizing s with
  | ind r ih =>
      subst known
      rcases advances s start with met | lower
      · exact .here met
      · exact lower.next fun s' below => ih (rank s') below.2 below.1 rfl

end Reaching
end Machine

section Since
variable {E : Type*} (marker : E → Bool)

/-- The events after the last marker, all of them where there is no marker. -/
def since (trace : List E) : List E := trace.rtakeWhile (fun e => !marker e)

@[simp] theorem since_nil : since marker [] = [] := by simp [since]

@[simp] theorem since_append_singleton (trace : List E) (e : E) :
    since marker (trace ++ [e]) = if marker e then [] else since marker trace ++ [e] := by
  unfold since
  by_cases h : marker e
  · rw [List.rtakeWhile_concat_neg _ _ _ (by simp [h]), if_pos h]
  · rw [List.rtakeWhile_concat_pos _ _ _ (by simp [h]), if_neg h]

theorem since_append (trace events : List E) (unmarked : ∀ e ∈ events, marker e = false) :
    since marker (trace ++ events) = since marker trace ++ events := by
  induction events using List.reverseRecOn with
  | nil => simp
  | append_singleton events e ih =>
      rw [← List.append_assoc, since_append_singleton, unmarked e (by simp)]
      simp only [Bool.false_eq_true, if_false]
      rw [ih fun e' member => unmarked e' (by simp [member]), List.append_assoc]

theorem since_suffix (trace : List E) : since marker trace <:+ trace := List.rtakeWhile_suffix _ _

theorem since_after_marker (before after : List E) {e : E} (marked : marker e = true) :
    since marker (before ++ e :: after) = since marker after := by
  induction after using List.reverseRecOn with
  | nil => simp [marked]
  | append_singleton after last ih =>
      rw [← List.cons_append, ← List.append_assoc, since_append_singleton, since_append_singleton, ih]

theorem since_eq_self {trace : List E} (unmarked : ∀ e ∈ trace, marker e = false) :
    since marker trace = trace := by
  simpa using since_append marker [] trace unmarked

theorem since_cases (trace : List E) :
    (∀ e ∈ trace, marker e = false) ∨
      ∃ before e, marker e = true ∧ trace = before ++ e :: since marker trace := by
  induction trace using List.reverseRecOn with
  | nil => simp
  | append_singleton trace last ih =>
      rw [since_append_singleton]
      cases marked : marker last with
      | true => exact .inr ⟨trace, last, marked, by simp⟩
      | false =>
          rcases ih with unmarked | ⟨before, e, first, split⟩
          · refine .inl fun e member => ?_
            rcases List.mem_append.mp member with old | new
            · exact unmarked e old
            · rw [List.mem_singleton.mp new, marked]
          · refine .inr ⟨before, e, first, ?_⟩
            simp only [Bool.false_eq_true, if_false]
            rw [← List.cons_append, ← List.append_assoc, ← split]

theorem since_of_prefix {first part : List E} (rest : List E)
    (whole : since marker (first ++ (part ++ rest)) = part ++ rest) :
    since marker (first ++ part) = part := by
  induction rest using List.reverseRecOn with
  | nil => simpa using whole
  | append_singleton rest last ih =>
      rw [← List.append_assoc part, ← List.append_assoc first, since_append_singleton] at whole
      split_ifs at whole
      · simp at whole
      · exact ih (List.append_cancel_right whole)

end Since
end BusExporter.Lib
