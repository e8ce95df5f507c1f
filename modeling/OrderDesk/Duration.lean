/-!
# Durations

A length of time, in whole seconds and the nanoseconds that remain.
-/

namespace OrderDesk

/-- The nanoseconds of a second. -/
def nanosPerSecond : UInt32 := 1000000000

/-- A length of time. -/
structure Duration where
  seconds : UInt64
  nanos : UInt32
  lt_second : nanos < nanosPerSecond
  deriving DecidableEq, Repr

namespace Duration

/-- The duration of so many seconds and nanoseconds. Whole seconds among the nanoseconds carry
    over; there is none if the seconds do not fit their word. -/
def ofParts? (seconds : UInt64) (nanos : UInt32) : Option Duration :=
  if seconds.toNat + (nanos / nanosPerSecond).toNat < UInt64.size then
    some ⟨seconds + (nanos / nanosPerSecond).toUInt64, nanos % nanosPerSecond,
      UInt32.mod_lt nanos (by decide)⟩
  else none

/-- The duration of so many seconds. -/
def ofSeconds (seconds : UInt64) : Duration := ⟨seconds, 0, by decide⟩

/-- The duration of so many nanoseconds. -/
def ofNanos (nanos : UInt64) : Duration where
  seconds := nanos / 1000000000
  nanos := (nanos % 1000000000).toUInt32
  lt_second := by
    have small : nanos.toNat % 1000000000 < 1000000000 := Nat.mod_lt _ (by decide)
    rw [UInt32.lt_iff_toNat_lt]
    simp [nanosPerSecond]
    omega

/-- The duration of so many milliseconds. -/
def ofMillis (millis : UInt64) : Duration where
  seconds := millis / 1000
  nanos := (millis % 1000).toUInt32 * 1000000
  lt_second := by
    have small : millis.toNat % 1000 < 1000 := Nat.mod_lt _ (by decide)
    have fits : millis.toNat % 1000 * 1000000 < 4294967296 := by omega
    rw [UInt32.lt_iff_toNat_lt]
    simp [nanosPerSecond, UInt32.toNat_mul, Nat.mod_eq_of_lt fits]
    omega

/-- The whole milliseconds of a duration. -/
def toMillis (duration : Duration) : Nat :=
  duration.seconds.toNat * 1000 + duration.nanos.toNat / 1000000

/-- A duration of milliseconds has as many of them. -/
theorem toMillis_ofMillis (millis : UInt64) : (ofMillis millis).toMillis = millis.toNat := by
  have small : millis.toNat % 1000 < 1000 := Nat.mod_lt _ (by decide)
  have fits : millis.toNat % 1000 * 1000000 < 4294967296 := by omega
  simp [toMillis, ofMillis, UInt32.toNat_mul, Nat.mod_eq_of_lt fits]
  omega

/-- Whether no time passes. -/
def isZero (duration : Duration) : Bool := duration.seconds = 0 && duration.nanos = 0

end Duration

end OrderDesk
