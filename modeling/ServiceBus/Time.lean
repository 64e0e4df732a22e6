/-
ServiceBus.Time — points in time, and spans of it.

The clock of the bus counts nanoseconds. What is configured is in milliseconds,
so a number alone stands for as many of them; what is shown of a time is its
whole milliseconds, and the rest is cut off.
-/
namespace ServiceBus

/-- A point in time, as the span since the clock began, or the span between two
of them. -/
@[ext]
structure Time where
  nanos : Nat
deriving Repr, DecidableEq, Inhabited

namespace Time

/-- The nanoseconds of a millisecond. -/
def perMilli : Nat := 1000000

/-- A number of milliseconds. -/
def ofMillis (n : Nat) : Time := ⟨perMilli * n⟩

instance : Coe Nat Time := ⟨ofMillis⟩

instance {n : Nat} : OfNat Time n := ⟨ofMillis n⟩

instance : LE Time := ⟨fun s t => s.nanos ≤ t.nanos⟩

instance : LT Time := ⟨fun s t => s.nanos < t.nanos⟩

instance : Add Time := ⟨fun s t => ⟨s.nanos + t.nanos⟩⟩

/-- What is left up to a later time: nothing, if it has passed. -/
instance : Sub Time := ⟨fun s t => ⟨s.nanos - t.nanos⟩⟩

instance (s t : Time) : Decidable (s ≤ t) := inferInstanceAs (Decidable (s.nanos ≤ t.nanos))

instance (s t : Time) : Decidable (s < t) := inferInstanceAs (Decidable (s.nanos < t.nanos))

/-- The whole milliseconds. -/
def millis (t : Time) : Nat := t.nanos / perMilli

/-- The number of milliseconds that is nearest. -/
def nearestMillis (t : Time) : Nat := (t.nanos + perMilli / 2) / perMilli

/-! ## Times are compared and added as their nanoseconds are -/

variable {s t : Time}

theorem lt_iff : s < t ↔ s.nanos < t.nanos := Iff.rfl

@[simp] theorem nanos_add (s t : Time) : (s + t).nanos = s.nanos + t.nanos := rfl

@[simp] theorem nanos_sub (s t : Time) : (s - t).nanos = s.nanos - t.nanos := rfl

@[simp] theorem nanos_zero : (0 : Time).nanos = 0 := rfl

@[simp] theorem nanos_ofMillis (n : Nat) : (ofMillis n).nanos = perMilli * n := rfl

end Time

end ServiceBus
