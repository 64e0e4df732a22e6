import Mathlib.Order.Defs.LinearOrder
import ServiceBus.Time

/-
ServiceBus.Proofs.Time — times in their order, and with milliseconds added to them.

Times are ordered as their nanoseconds are, so whatever holds in a linear order holds of
them. What is configured comes in milliseconds: `Time.add_millis_add` and the two that
compare such sums are all that a wait for several delays needs.
-/
namespace ServiceBus.Time

instance : Min Time := minOfLe

instance : Max Time := maxOfLe

instance : LinearOrder Time where
  le_refl t := Nat.le_refl t.nanos
  le_trans _ _ _ := Nat.le_trans
  le_antisymm _ _ hle hge := Time.ext (Nat.le_antisymm hle hge)
  le_total s t := Nat.le_total s.nanos t.nanos
  lt_iff_le_not_ge _ _ := Nat.lt_iff_le_and_not_ge
  toDecidableLE s t := inferInstance

variable {s t : Time} {m n : Nat}

theorem zero_le (t : Time) : 0 ≤ t := Nat.zero_le t.nanos

/-! ## What is left up to a later time -/

theorem sub_pos (h : s < t) : 0 < t - s := Nat.sub_pos_of_lt h

/-- It leads to that time. -/
theorem add_sub_of_pos (h : 0 < t - s) : s + (t - s) = t := by
  rw [lt_iff, nanos_sub, nanos_zero] at h
  ext
  simp
  omega

theorem add_sub_cancel_left (s t : Time) : s + t - s = t := by
  ext
  simp

/-! ## Milliseconds -/

theorem add_millis_add (t : Time) (m n : Nat) : t + m + n = t + (m + n : Nat) := by
  ext
  simp only [nanos_add, nanos_ofMillis, Nat.mul_add, Nat.add_assoc]

theorem add_millis_le_add_millis (h : m ≤ n) (t : Time) : t + m ≤ t + n :=
  Nat.add_le_add_left (Nat.mul_le_mul_left perMilli h) t.nanos

theorem add_millis_lt_add_millis (h : m < n) (t : Time) : t + m < t + n :=
  Nat.add_lt_add_left (Nat.mul_lt_mul_of_pos_left h (by decide)) t.nanos

/-- The whole milliseconds are no more than all of it. -/
theorem millis_le (t : Time) : t.millis ≤ t := Nat.mul_div_le t.nanos perMilli

/-- Less than a millisecond is cut off. -/
theorem lt_millis_add_one (t : Time) : t < (t.millis + 1 : Nat) :=
  Nat.lt_mul_div_succ t.nanos (by decide)

end ServiceBus.Time
