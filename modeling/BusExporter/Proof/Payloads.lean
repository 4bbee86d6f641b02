import BusExporter.Model.Decoder
import BusExporter.Model.Mqtt

/-! The payloads of values that are integers. The conversion to `i64` saturates, so that the integers outside
its range are published as its bounds. -/

namespace BusExporter.Mqtt
open Lib

theorem formatValue_whole {v : Float} {n : ℤ} (whole : Decimal.exact v = some (n : ℚ)) :
    formatValue v = toString (Decimal.clampI64 n) := by
  rw [formatValue, if_pos (Decimal.isWhole_iff.mpr ⟨n, whole⟩), Decimal.asI64_exact whole]

/-- The payload of a value that is an integer denotes it exactly when it fits 64 bits with a sign. -/
theorem payload_exact_iff {v : Float} {n : ℤ} (whole : Decimal.exact v = some (n : ℚ)) :
    Decimal.readInteger (formatValue v).toList = some n ↔ -2 ^ 63 ≤ n ∧ n < 2 ^ 63 := by
  rw [formatValue_whole whole, Decimal.readInteger_toString, Option.some.injEq, Decimal.clampI64_eq_iff]

theorem payload_exact_hundred : Decimal.readInteger (formatValue (-100.0)).toList = some (-100) := by
  have kind : (-100.0 : Float).toModel.unpack = .finite .negative (100 * 2 ^ 46) (-46) (by decide) := rfl
  have whole : Decimal.exact (-100.0) = some ((-100 : ℤ) : ℚ) := by
    rw [Decimal.exact, kind]
    norm_num [Decimal.withSign, F64.fraction, Int.toNat]
  exact (payload_exact_iff whole).mpr (by decide)

set_option maxRecDepth 4000 in
/-- Registers whose bits are all ones hold the largest unsigned integer of 64 bits, which becomes the largest
signed one. -/
theorem payload_saturates :
    ∃ v n, Decoder.decode [0xFFFF, 0xFFFF, 0xFFFF, 0xFFFF] .u64 .bigEndian 1.0 0.0 = .ok (v, v) ∧
      Decimal.exact v = some ((n : ℤ) : ℚ) ∧ formatValue v = "9223372036854775807" ∧
        Decimal.readInteger (formatValue v).toList ≠ some n := by
  have kind : (18446744073709551616.0 : Float).toModel.unpack = .finite .positive (2 ^ 52) 12 (by decide) := rfl
  have whole : Decimal.exact 18446744073709551616.0 = some ((18446744073709551616 : ℤ) : ℚ) := by
    rw [Decimal.exact, kind]
    norm_num [Decimal.withSign, F64.fraction, Int.toNat]
  have payload : formatValue 18446744073709551616.0 = "9223372036854775807" := by
    rw [formatValue_whole whole]
    decide
  refine ⟨18446744073709551616.0, 18446744073709551616, by decide, whole, payload, ?_⟩
  rw [payload]
  decide

end BusExporter.Mqtt
