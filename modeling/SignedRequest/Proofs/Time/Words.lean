import SignedRequest.Proofs.Time

/-!
Time in machine words. A point in time is a signed count of seconds and the nanoseconds after it, a
length of time an unsigned count and its nanoseconds. The difference of two points in time is taken
word by word: it is refused if it would be negative, and borrows a second where the nanoseconds do
not suffice. No word overflows on the way, however far apart the two are, and comparing the difference
with a length of time decides what the sum of integers would.
-/

namespace SignedRequest

/-- Whole seconds and the nanoseconds after them. -/
structure Span where
  seconds : UInt64
  nanos : UInt32
  deriving DecidableEq

def Span.exceeds (span limit : Span) : Bool :=
  limit.seconds < span.seconds || (span.seconds == limit.seconds && limit.nanos < span.nanos)

namespace Duration

def span (d : Duration) : Span := ⟨.ofNat d.seconds, .ofNat (d.nanos % 1000000000)⟩

theorem toNat_span (d : Duration) :
    d.span.seconds.toNat = d.nanos / 1000000000 ∧ d.span.nanos.toNat = d.nanos % 1000000000 := by
  have range := d.inRange
  constructor
  · exact UInt64.toNat_ofNat_of_lt' (d.seconds_lt)
  · exact UInt32.toNat_ofNat_of_lt' (by change _ < 0x100000000; omega)

theorem eq_span_iff (d : Duration) (seconds : UInt64) (nanos : UInt32) :
    ⟨seconds, nanos⟩ = d.span ↔
      seconds.toNat = d.nanos / 1000000000 ∧ nanos.toNat = d.nanos % 1000000000 := by
  obtain ⟨known, knownNanos⟩ := d.toNat_span
  rw [← known, ← knownNanos, UInt64.toNat_inj, UInt32.toNat_inj]
  exact Iff.of_eq (Span.mk.injEq seconds nanos d.span.seconds d.span.nanos)

theorem exceeds_span_iff (d limit : Duration) :
    d.span.exceeds limit.span = true ↔ limit.nanos < d.nanos := by
  obtain ⟨seconds, nanos⟩ := d.toNat_span
  obtain ⟨limitSeconds, limitNanos⟩ := limit.toNat_span
  simp only [Span.exceeds, Bool.or_eq_true, Bool.and_eq_true, decide_eq_true_eq, beq_iff_eq,
    UInt64.lt_iff_toNat_lt, UInt32.lt_iff_toNat_lt, ← UInt64.toNat_inj, seconds, nanos,
    limitSeconds, limitNanos]
  omega

end Duration

theorem toNat_toUInt64_sub {a b : Int64} (ordered : b.toInt ≤ a.toInt) :
    ((a - b).toUInt64.toNat : Int) = a.toInt - b.toInt := by
  have signed (word : Int64) : word.toInt =
      if 2 * word.toUInt64.toNat < 0x10000000000000000 then (word.toUInt64.toNat : Int)
      else word.toUInt64.toNat - 0x10000000000000000 := BitVec.toInt_eq_toNat_cond word.toBitVec
  have boundA := a.toUInt64.toNat_lt
  have boundB := b.toUInt64.toNat_lt
  have first := signed a
  have second := signed b
  rw [Int64.toUInt64_sub, UInt64.toNat_sub]
  split at first
  · split at second
    · omega
    · omega
  · split at second
    · omega
    · omega

theorem toInt_sub_one {a : Int64} (above : -0x8000000000000000 < a.toInt) :
    (a - 1).toInt = a.toInt - 1 := by
  have bound := a.toInt_lt
  have one : (1 : Int64).toInt = 1 := by decide
  rw [Int64.toInt_sub, one]
  apply Int.bmod_eq_of_le
  · omega
  · omega

namespace Instant

def second (t : Instant) : Int64 := .ofInt (t.nanos / 1000000000)

def fraction (t : Instant) : UInt32 := .ofNat (t.nanos % 1000000000).toNat

theorem toInt_second (t : Instant) : t.second.toInt = t.nanos / 1000000000 := by
  have range := t.inRange
  apply Int64.toInt_ofInt_of_le
  · omega
  · omega

theorem toNat_fraction (t : Instant) : (t.fraction.toNat : Int) = t.nanos % 1000000000 := by
  have small : (t.nanos % 1000000000).toNat < 0x100000000 := by omega
  rw [fraction, UInt32.toNat_ofNat_of_lt' small]
  omega

def reaches (t earlier : Instant) : Bool :=
  earlier.second < t.second || (earlier.second == t.second && earlier.fraction ≤ t.fraction)

def spanSince? (t earlier : Instant) : Option Span :=
  if !t.reaches earlier then none
  else if earlier.fraction ≤ t.fraction then
    some ⟨(t.second - earlier.second).toUInt64, t.fraction - earlier.fraction⟩
  else
    some ⟨(t.second - 1 - earlier.second).toUInt64, t.fraction + 1000000000 - earlier.fraction⟩

variable (t earlier : Instant)

theorem reaches_iff : t.reaches earlier = true ↔ earlier.nanos ≤ t.nanos := by
  have second := t.toInt_second
  have fraction := t.toNat_fraction
  have secondEarlier := earlier.toInt_second
  have fractionEarlier := earlier.toNat_fraction
  simp only [reaches, Bool.or_eq_true, Bool.and_eq_true, decide_eq_true_eq, beq_iff_eq,
    Int64.lt_iff_toInt_lt, ← Int64.toInt_inj, UInt32.le_iff_toNat_le]
  omega

variable {t earlier}

theorem nanos_since (ordered : earlier.nanos ≤ t.nanos) :
    ((t.since earlier).nanos : Int) = t.nanos - earlier.nanos :=
  Int.toNat_of_nonneg (by omega)

theorem span_since (ordered : earlier.nanos ≤ t.nanos) (whole : earlier.fraction ≤ t.fraction) :
    ⟨(t.second - earlier.second).toUInt64, t.fraction - earlier.fraction⟩ =
      (t.since earlier).span := by
  have second := t.toInt_second
  have fraction := t.toNat_fraction
  have secondEarlier := earlier.toInt_second
  have fractionEarlier := earlier.toNat_fraction
  have between := nanos_since ordered
  have rest := UInt32.toNat_sub_of_le t.fraction earlier.fraction whole
  rw [UInt32.le_iff_toNat_le] at whole
  have apart := toNat_toUInt64_sub (a := t.second) (b := earlier.second) (by omega)
  rw [Duration.eq_span_iff]
  omega

/-- Where the nanoseconds do not suffice, the earlier second is smaller, so that one can be taken
from the later one. -/
theorem span_since_of_borrow (ordered : earlier.nanos ≤ t.nanos)
    (short : ¬earlier.fraction ≤ t.fraction) :
    ⟨(t.second - 1 - earlier.second).toUInt64, t.fraction + 1000000000 - earlier.fraction⟩ =
      (t.since earlier).span := by
  have second := t.toInt_second
  have fraction := t.toNat_fraction
  have secondEarlier := earlier.toInt_second
  have fractionEarlier := earlier.toNat_fraction
  have between := nanos_since ordered
  rw [UInt32.le_iff_toNat_le] at short
  have lowest := earlier.second.le_toInt
  have borrowed := toInt_sub_one (a := t.second) (by omega)
  have apart := toNat_toUInt64_sub (a := t.second - 1) (b := earlier.second) (by omega)
  have sum : (t.fraction + 1000000000).toNat = t.fraction.toNat + 1000000000 := by
    rw [UInt32.toNat_add]
    apply Nat.mod_eq_of_lt
    change _ + 1000000000 < 0x100000000
    omega
  have rest := UInt32.toNat_sub_of_le (t.fraction + 1000000000) earlier.fraction
    (UInt32.le_iff_toNat_le.2 (by omega))
  rw [Duration.eq_span_iff]
  omega

variable (t earlier)

theorem spanSince?_eq :
    t.spanSince? earlier =
      if earlier.nanos ≤ t.nanos then some (t.since earlier).span else none := by
  unfold spanSince?
  by_cases ordered : earlier.nanos ≤ t.nanos
  · have reached := (t.reaches_iff earlier).2 ordered
    rw [if_pos ordered, if_neg (by simp [reached])]
    by_cases whole : earlier.fraction ≤ t.fraction
    · rw [if_pos whole, span_since ordered whole]
    · rw [if_neg whole, span_since_of_borrow ordered whole]
  · have missed := mt (t.reaches_iff earlier).1 ordered
    rw [if_neg ordered, if_pos (by simpa using missed)]

/-- A point in time comes more than a length of time after another one, as told from the words. -/
def leads (t earlier : Instant) (limit : Duration) : Bool :=
  match t.spanSince? earlier with
  | some span => span.exceeds limit.span
  | none => false

theorem leads_iff (limit : Duration) :
    t.leads earlier limit = true ↔ earlier.nanos + limit.nanos < t.nanos := by
  have between : (t.since earlier).nanos = (t.nanos - earlier.nanos).toNat := rfl
  rw [leads, spanSince?_eq]
  by_cases ordered : earlier.nanos ≤ t.nanos
  · rw [if_pos ordered]
    change (t.since earlier).span.exceeds limit.span = true ↔ _
    rw [Duration.exceeds_span_iff]
    omega
  · rw [if_neg ordered]
    simp only [Bool.false_eq_true, false_iff]
    omega

end Instant
end SignedRequest
