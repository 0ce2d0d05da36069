/-!
# Durations

A `Duration` is a number of whole seconds and a remainder in nanoseconds below one second.

## Main definitions

* `Duration.ofMillis`, `Duration.millis`, `Duration.wordMillis`
-/

namespace ClusterIdentity

/-- A length of time: whole seconds and the nanoseconds left over. -/
structure Duration where
  seconds : UInt64
  nanos : Nat
  nanos_lt : nanos < 1000000000
  deriving DecidableEq

namespace Duration

def zero : Duration := ⟨0, 0, by decide⟩

instance : Inhabited Duration := ⟨zero⟩

def isZero (d : Duration) : Bool := d.seconds == 0 && d.nanos == 0

def ofMillis (ms : UInt64) : Duration where
  seconds := ms / 1000
  nanos := ms.toNat % 1000 * 1000000
  nanos_lt := by omega

def millis (d : Duration) : Nat := d.seconds.toNat * 1000 + d.nanos / 1000000

/-- The low 64 bits of the whole milliseconds. -/
def wordMillis (d : Duration) : UInt64 := UInt64.ofNat d.millis

theorem millis_ofMillis (ms : UInt64) : (ofMillis ms).millis = ms.toNat := by
  simp only [millis, ofMillis, UInt64.toNat_div, UInt64.reduceToNat]
  omega

theorem wordMillis_ofMillis (ms : UInt64) : (ofMillis ms).wordMillis = ms := by
  simp [wordMillis, millis_ofMillis]

end Duration

end ClusterIdentity
