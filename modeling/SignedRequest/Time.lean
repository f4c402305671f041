/-!
Points in time and lengths of time, counted in nanoseconds. A point in time has a 64-bit signed
count of seconds since the epoch, a length of time a 64-bit unsigned one, and both a fraction of a
second; arithmetic is that of the integers, and its result may lie outside the range.
-/

namespace SignedRequest

structure Duration where
  nanos : Nat
  inRange : nanos < 0x10000000000000000 * 1000000000

namespace Duration

instance : DecidableEq Duration := fun a b =>
  decidable_of_iff (a.nanos = b.nanos) ⟨fun h => by cases a; cases b; simp_all, congrArg nanos⟩

def ofNanos? (nanos : Nat) : Option Duration :=
  if h : nanos < 0x10000000000000000 * 1000000000 then some ⟨nanos, h⟩ else none

/-- Whole seconds, cut off at the longest length of time. -/
def ofSeconds (seconds : Nat) : Duration :=
  ⟨min seconds 0xffffffffffffffff * 1000000000, by
    have := Nat.min_le_right seconds 0xffffffffffffffff
    omega⟩

def zero : Duration := ⟨0, by decide⟩

instance : Inhabited Duration := ⟨zero⟩

def isZero (d : Duration) : Bool := d.nanos == 0

def seconds (d : Duration) : Nat := d.nanos / 1000000000

theorem seconds_lt (d : Duration) : d.seconds < 0x10000000000000000 := by
  have := d.inRange
  unfold seconds
  omega

end Duration

structure Instant where
  nanos : Int
  inRange : -(0x8000000000000000 * 1000000000) ≤ nanos ∧ nanos < 0x8000000000000000 * 1000000000

namespace Instant

instance : DecidableEq Instant := fun a b =>
  decidable_of_iff (a.nanos = b.nanos) ⟨fun h => by cases a; cases b; simp_all, congrArg nanos⟩

def ofNanos? (nanos : Int) : Option Instant :=
  if h : -(0x8000000000000000 * 1000000000) ≤ nanos ∧ nanos < 0x8000000000000000 * 1000000000 then
    some ⟨nanos, h⟩
  else none

def epoch : Instant := ⟨0, by decide⟩

instance : Inhabited Instant := ⟨epoch⟩

def ofUnixSeconds? (seconds : Nat) : Option Instant := ofNanos? (seconds * 1000000000)

def add? (t : Instant) (d : Duration) : Option Instant := ofNanos? (t.nanos + d.nanos)

theorem add?_eq_some_iff (t later : Instant) (d : Duration) :
    t.add? d = some later ↔ later.nanos = t.nanos + d.nanos := by
  have range := later.inRange
  obtain ⟨nanos, _⟩ := later
  unfold add? ofNanos?
  split
  · simp [eq_comm]
  · constructor
    · nofun
    · intro same
      exact absurd (same ▸ range) ‹_›

/-- The nanoseconds from `earlier` to `t`, zero if `t` comes first. -/
def nanosSince (t earlier : Instant) : Nat := (t.nanos - earlier.nanos).toNat

theorem nanosSince_le_iff (t earlier : Instant) (d : Duration) :
    t.nanosSince earlier ≤ d.nanos ↔ t.nanos ≤ earlier.nanos + d.nanos := by
  unfold nanosSince
  omega

/-- The length of time from `earlier` to `t`, zero if `t` comes first. -/
def since (t earlier : Instant) : Duration :=
  ⟨t.nanosSince earlier, by
    have := t.inRange
    have := earlier.inRange
    unfold nanosSince
    omega⟩

/-- Whole seconds since the epoch; points in time before it count as the epoch. -/
def unixSeconds (t : Instant) : Nat := t.nanos.toNat / 1000000000

/-- The last whole second, for points in time since the epoch. -/
def wholeSecond? (t : Instant) : Option Instant :=
  if t.nanos < 0 then none else ofUnixSeconds? t.unixSeconds

theorem unixSeconds_lt (t : Instant) : t.unixSeconds < 0x8000000000000000 := by
  have := t.inRange
  unfold unixSeconds
  omega

end Instant
end SignedRequest
