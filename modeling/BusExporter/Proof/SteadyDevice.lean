import BusExporter.Model.Batch

/-! Modbus devices that do not change: partial maps from addresses to values, as a reader sees them. -/

namespace BusExporter.Modbus
open Lib Config

structure Device where
  holding : UInt16 → Option UInt16
  input : UInt16 → Option UInt16
  coils : UInt16 → Option Bool
  discretes : UInt16 → Option Bool
  refuses : UInt16 → UInt16 → Error

section Tables
variable {α : Type} (table : UInt16 → Option α)

def cell (n : Nat) : Option α := if n < 65536 then table (UInt16.ofNat n) else none

def span (start count : Nat) : Option (List α) := (List.range' start count).mapM (cell table)

def Readable (start count : Nat) : Prop := ∀ n, start ≤ n → n < start + count → (cell table n).isSome

variable {table}

theorem span_append (start first second : Nat) :
    span table start (first + second) =
      (span table start first).bind fun front =>
        (span table (start + first) second).map (front ++ ·) := by
  have split : List.range' start (first + second) =
      List.range' start first ++ List.range' (start + first) second := by
    rw [← List.range'_append_1]
  simp only [span, split, List.mapM_append]
  cases List.mapM (cell table) (List.range' start first) with
  | none => rfl
  | some front => cases List.mapM (cell table) (List.range' (start + first) second) <;> rfl

theorem span_succ (start count : Nat) :
    span table start (count + 1) =
      (span table start count).bind fun front => (cell table (start + count)).map (front ++ [·]) := by
  rw [span_append]
  congr 1
  funext front
  simp only [span, List.range'_one, List.mapM_cons, List.mapM_nil]
  cases cell table (start + count) <;> rfl

theorem length_span {start count : Nat} {values : List α} (read : span table start count = some values) :
    values.length = count := by
  induction count generalizing values with
  | zero =>
      cases read
      rfl
  | succ count ih =>
      rw [span_succ] at read
      obtain ⟨front, front_read, rest⟩ := Option.bind_eq_some_iff.mp read
      obtain ⟨v, -, rfl⟩ := Option.map_eq_some_iff.mp rest
      rw [List.length_append, ih front_read, List.length_singleton]

theorem span_readable {start count : Nat} :
    (∃ values, span table start count = some values) ↔ Readable table start count := by
  induction count with
  | zero =>
      constructor
      · intro _ n low high
        omega
      · intro _
        exact ⟨[], rfl⟩
  | succ count ih =>
      rw [span_succ]
      constructor
      · rintro ⟨values, read⟩ n low high
        obtain ⟨front, front_read, rest⟩ := Option.bind_eq_some_iff.mp read
        obtain ⟨v, found, -⟩ := Option.map_eq_some_iff.mp rest
        rcases Nat.lt_or_ge n (start + count) with inside | final
        · exact ih.mp ⟨front, front_read⟩ n low inside
        · have same : n = start + count := by omega
          rw [same, found]
          rfl
      · intro readable
        obtain ⟨front, front_read⟩ := ih.mpr fun n low high => readable n low (by omega)
        obtain ⟨v, found⟩ := Option.isSome_iff_exists.mp (readable (start + count) (by omega) (by omega))
        exact ⟨front ++ [v], by simp [front_read, found]⟩

theorem span_slice {start count first size : Nat} {values : List α}
    (read : span table start count = some values) (low : start ≤ first)
    (high : first + size ≤ start + count) :
    span table first size = some ((values.drop (first - start)).take size) := by
  have shape : count = (first - start) + (size + (start + count - (first + size))) := by omega
  have position : start + (first - start) = first := by omega
  rw [shape, span_append, position, span_append] at read
  obtain ⟨front, front_read, rest⟩ := Option.bind_eq_some_iff.mp read
  obtain ⟨tail, tail_read, rfl⟩ := Option.map_eq_some_iff.mp rest
  obtain ⟨middle, middle_read, final⟩ := Option.bind_eq_some_iff.mp tail_read
  obtain ⟨after, -, rfl⟩ := Option.map_eq_some_iff.mp final
  rw [middle_read, List.drop_left' (length_span front_read), List.take_left' (length_span middle_read)]

end Tables

namespace Device
variable (d : Device)

def answer {α : Type} (check : UInt16 → Result Unit) (table : UInt16 → Option α)
    (addr count : UInt16) : Result (List α) := do
  check count
  match span table addr.toNat count.toNat with
  | some values => .ok values
  | none => .error (d.refuses addr count)

def reader : ModbusReader Unit where
  readHoldingRegisters addr count w := (d.answer validateRegisterCount d.holding addr count, w)
  readInputRegisters addr count w := (d.answer validateRegisterCount d.input addr count, w)
  readCoils addr count w := (d.answer validateCoilCount d.coils addr count, w)
  readDiscreteInputs addr count w := (d.answer validateCoilCount d.discretes addr count, w)

theorem answer_registers {table : UInt16 → Option UInt16} {addr count : UInt16} {regs : List UInt16} :
    d.answer validateRegisterCount table addr count = .ok regs ↔
      0 < count.toNat ∧ count.toNat ≤ 125 ∧ span table addr.toNat count.toNat = some regs := by
  have limit : maxRegistersPerRead.toNat = 125 := rfl
  by_cases bad : count == 0 || maxRegistersPerRead < count
  · simp only [answer, validateRegisterCount, bad, if_true]
    constructor
    · intro impossible
      cases impossible
    · rintro ⟨positive, small, -⟩
      simp only [Bool.or_eq_true, beq_iff_eq, decide_eq_true_eq, UInt16.lt_iff_toNat_lt, limit] at bad
      rcases bad with rfl | large
      · exact absurd positive (by decide)
      · omega
  · simp only [answer, validateRegisterCount, bad]
    simp only [Bool.or_eq_true, beq_iff_eq, decide_eq_true_eq, UInt16.lt_iff_toNat_lt, limit,
      not_or, not_lt] at bad
    have positive : 0 < count.toNat := by
      rcases Nat.eq_zero_or_pos count.toNat with zero | positive
      · exact absurd (UInt16.toNat_inj.mp zero) bad.1
      · exact positive
    cases read : span table addr.toNat count.toNat with
    | none => simp [bind, Except.bind]
    | some values => simp [bind, Except.bind, positive, bad.2]

end Device
end BusExporter.Modbus
