/-!
Times of a clock that counts milliseconds in a word of 64 bits.

Sums of times wrap around. Where one does not, it is the sum of the numbers, and only then does it
come after what was added to.
-/

namespace RegionScript.Clock

/-- A number of seconds, in milliseconds. -/
def seconds (n : UInt32) : UInt64 := n.toUInt64 * 1000

/-- The clock can move on that long before it starts over. -/
def Fits (now elapsed : UInt64) : Prop := now.toNat + elapsed.toNat < UInt64.size

instance (now elapsed : UInt64) : Decidable (Fits now elapsed) :=
  inferInstanceAs (Decidable (_ < _))

theorem toNat_seconds (n : UInt32) : (seconds n).toNat = 1000 * n.toNat := by
  have hn : n.toNat < 2 ^ 32 := n.toNat_lt
  have hfits : n.toNat * 1000 < 2 ^ 64 := by omega
  rw [seconds, UInt64.toNat_mul, UInt32.toNat_toUInt64]
  exact (Nat.mod_eq_of_lt hfits).trans (Nat.mul_comm ..)

theorem seconds_eq_zero_iff {n : UInt32} : seconds n = 0 ↔ n = 0 := by
  rw [← UInt64.toNat_inj, ← UInt32.toNat_inj, toNat_seconds]
  show 1000 * n.toNat = 0 ↔ n.toNat = 0
  omega

theorem toUInt64_eq_zero_iff {n : UInt32} : n.toUInt64 = 0 ↔ n = 0 := by
  rw [← UInt64.toNat_inj, ← UInt32.toNat_inj, UInt32.toNat_toUInt64]
  rfl

namespace Fits

variable {now elapsed : UInt64}

theorem toNat_add (h : Fits now elapsed) : (now + elapsed).toNat = now.toNat + elapsed.toNat := by
  rw [UInt64.toNat_add, Nat.mod_eq_of_lt h]

theorem le_add (h : Fits now elapsed) : now ≤ now + elapsed := by
  rw [UInt64.le_iff_toNat_le, h.toNat_add]
  exact Nat.le_add_right ..

end Fits

/-- What is added comes later unless it is nothing or makes the clock start over. -/
theorem lt_add_iff {now elapsed : UInt64} :
    now < now + elapsed ↔ Fits now elapsed ∧ elapsed ≠ 0 := by
  have hnow : now.toNat < 2 ^ 64 := now.toNat_lt
  have helapsed : elapsed.toNat < 2 ^ 64 := elapsed.toNat_lt
  rw [UInt64.lt_iff_toNat_lt, UInt64.toNat_add, ne_eq, ← UInt64.toNat_inj]
  show _ ↔ now.toNat + elapsed.toNat < 2 ^ 64 ∧ ¬ elapsed.toNat = 0
  omega

end RegionScript.Clock
