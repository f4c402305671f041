import SignedRequest.Time

/-!
A clock that stands still until it is moved. It keeps how far it was moved as a 64-bit signed count
of nanoseconds, and has no reading where that leads out of the range of points in time.
-/

namespace SignedRequest

structure Clock where
  start : Instant
  delta : Int64

namespace Clock

def frozen (start : Instant) : Clock := ⟨start, 0⟩

def now? (clock : Clock) : Option Instant :=
  Instant.ofNanos? (clock.start.nanos + clock.delta.toInt)

/-- A move longer than the count can hold is cut to the longest that it can. -/
def step (amount : Duration) : Int64 := Int64.ofNat (min amount.nanos 0x7fffffffffffffff)

def advance (clock : Clock) (amount : Duration) : Clock :=
  { clock with delta := clock.delta + step amount }

def rewind (clock : Clock) (amount : Duration) : Clock :=
  { clock with delta := clock.delta - step amount }

def setDelta (clock : Clock) (nanos : Int64) : Clock := { clock with delta := nanos }

end Clock
end SignedRequest
