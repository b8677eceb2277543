/-! # Conversions between 64-bit integers

Values of `uint64_t` and `int64_t` as numbers. -/

namespace Cuttlefish

def toUInt64 (value : Int) : Nat := (value % 18446744073709551616).toNat

def toInt64 (value : Nat) : Int :=
  if value < 9223372036854775808 then value else value - 18446744073709551616

theorem toUInt64_of_nonneg {value : Int} (nonneg : 0 ≤ value)
    (fits : value < 18446744073709551616) : toUInt64 value = value.toNat := by
  rw [toUInt64, Int.emod_eq_of_lt nonneg fits]

theorem toInt64_toUInt64 {value : Int} (lower : -9223372036854775808 ≤ value)
    (upper : value < 9223372036854775808) : toInt64 (toUInt64 value) = value := by
  rw [toInt64, toUInt64]
  split <;> omega

end Cuttlefish
