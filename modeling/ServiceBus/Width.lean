/-
ServiceBus.Width — the whole numbers that fit into a given width.
-/
namespace ServiceBus

/-- The whole numbers between two bounds. -/
structure Width where
  low : Int
  high : Int
deriving Repr, DecidableEq, Inhabited

namespace Width

/-- Signed numbers of 32 bits. -/
def int32 : Width := ⟨-2147483648, 2147483647⟩

/-- Signed numbers of 64 bits. -/
def int64 : Width := ⟨-9223372036854775808, 9223372036854775807⟩

/-- Unsigned numbers of 32 bits. -/
def word32 : Width := ⟨0, 4294967295⟩

/-- Unsigned numbers of 64 bits. -/
def word64 : Width := ⟨0, 18446744073709551615⟩

/-- Numbers of 64 bits, with or without a sign. -/
def any64 : Width := ⟨int64.low, word64.high⟩

/-- Numbers of 128 bits, with or without a sign. -/
def any128 : Width :=
  ⟨-170141183460469231731687303715884105728, 340282366920938463463374607431768211455⟩

/-- Whether a number fits. -/
def holds (w : Width) (i : Int) : Bool := decide (w.low ≤ i ∧ i ≤ w.high)

theorem holds_iff {w : Width} {i : Int} : w.holds i = true ↔ w.low ≤ i ∧ i ≤ w.high := by
  simp [holds]

end Width

end ServiceBus
