import EventRing.Memory

/-!
# Time

Ticks are nanoseconds in a 64-bit word; a duration is a number of nanoseconds without a bound of that kind.  A clock
is asked for the time by a reader; asking may also change memory, because a producer may run meanwhile.
-/

namespace EventRing

/-- A span of time. -/
structure Duration where
  nanoseconds : Nat
deriving DecidableEq

namespace Duration

/-- A number of milliseconds. -/
def ofMilliseconds (n : Nat) : Duration := ⟨n * 1000000⟩

/-- The whole seconds in a duration. -/
def seconds (d : Duration) : Nat := d.nanoseconds / 1000000000

/-- The nanoseconds beyond the whole seconds. -/
def subsecond (d : Duration) : Nat := d.nanoseconds % 1000000000

/-- The whole milliseconds in a duration. -/
def milliseconds (d : Duration) : Nat := d.nanoseconds / 1000000

/-- A duration in ticks; what does not fit a word becomes the largest word. -/
def toTicks (d : Duration) : UInt64 := UInt64.ofNat (min d.nanoseconds (UInt64.size - 1))

/-- A number of ticks as a duration. -/
def ofTicks (t : UInt64) : Duration := ⟨t.toNat⟩

end Duration

/-- The ticks from one instant to a later one, and none if it is not later. -/
def ticksBetween (since now : UInt64) : UInt64 := if since ≤ now then now - since else 0

theorem toNat_ticksBetween (since now : UInt64) : (ticksBetween since now).toNat = now.toNat - since.toNat := by
  unfold ticksBetween
  split
  · next h => exact UInt64.toNat_sub_of_le _ _ h
  · next h =>
    have hlt : now.toNat < since.toNat := UInt64.lt_iff_toNat_lt.1 (UInt64.not_le.1 h)
    simp only [UInt64.toNat_zero]
    omega

/-- What asking a clock does: the time, unless whoever runs meanwhile halts; the clock's own state; the memory. -/
structure Reading (σ : Type) where
  time : Option UInt64
  state : σ
  memory : Memory

/-- A clock with a state of its own.  `pending` bounds the number of records that asking can still add to a ring. -/
structure Clock (σ : Type) where
  ask : σ → Memory → Reading σ
  pending : σ → Nat

namespace Clock

/-- The clock that always shows the same time. -/
def fixed (time : UInt64) : Clock Unit where
  ask state memory := ⟨some time, state, memory⟩
  pending _ := 0

/-- The clock whose state counts how often it was asked, and which shows the time listed under that number. -/
def ofReadings (times : Nat → UInt64) : Clock Nat where
  ask asked memory := ⟨some (times asked), asked + 1, memory⟩
  pending _ := 0

end Clock

end EventRing
