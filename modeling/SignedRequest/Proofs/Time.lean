import SignedRequest.Time

/-!
Whole seconds. The last whole second of a point in time is as far from a whole second before it as
the whole seconds between them tell. Apart from that, whole seconds add up only if the fractions do
not make up one more and the sum does not begin before the epoch.
-/

namespace SignedRequest.Instant

theorem ofNanos?_eq_some_iff (nanos : Int) (t : Instant) :
    ofNanos? nanos = some t ↔ t.nanos = nanos := by
  have range := t.inRange
  obtain ⟨count, _⟩ := t
  unfold ofNanos?
  split
  · simp [eq_comm]
  · constructor
    · nofun
    · intro same
      exact absurd (same ▸ range) ‹_›

theorem add?_eq_none_iff (t : Instant) (d : Duration) :
    t.add? d = none ↔ 0x8000000000000000 * 1000000000 ≤ t.nanos + d.nanos := by
  have range := t.inRange
  unfold add? ofNanos?
  split
  · simp only [reduceCtorEq, false_iff]
    omega
  · simp only [true_iff]
    omega

theorem ofUnixSeconds?_eq_some_iff (seconds : Nat) (t : Instant) :
    ofUnixSeconds? seconds = some t ↔ t.nanos = seconds * 1000000000 :=
  ofNanos?_eq_some_iff _ t

theorem ofUnixSeconds?_isSome_iff (seconds : Nat) :
    (ofUnixSeconds? seconds).isSome = true ↔ seconds ≤ 0x7fffffffffffffff := by
  unfold ofUnixSeconds? ofNanos?
  split
  · simp only [Option.isSome_some, true_iff]
    omega
  · simp only [Option.isSome_none, Bool.false_eq_true, false_iff]
    omega

/-- A point in time at a whole second since the epoch. -/
def IsWhole (t : Instant) : Prop := t.nanos = t.unixSeconds * 1000000000

instance (t : Instant) : Decidable t.IsWhole := inferInstanceAs (Decidable (_ = _))

theorem isWhole_of_ofUnixSeconds? {seconds : Nat} {t : Instant}
    (told : ofUnixSeconds? seconds = some t) : t.IsWhole ∧ t.unixSeconds = seconds := by
  have nanos := (ofUnixSeconds?_eq_some_iff seconds t).1 told
  unfold IsWhole unixSeconds
  omega

/-- The last whole second of a point in time since the epoch; the epoch itself for those before
it. -/
def floor (t : Instant) : Instant :=
  ⟨t.unixSeconds * 1000000000, by
    have := t.unixSeconds_lt
    omega⟩

theorem ofUnixSeconds?_unixSeconds (t : Instant) : ofUnixSeconds? t.unixSeconds = some t.floor :=
  (ofUnixSeconds?_eq_some_iff _ _).2 rfl

theorem exists_ofUnixSeconds? (t : Instant) :
    ∃ floor, ofUnixSeconds? t.unixSeconds = some floor :=
  ⟨_, t.ofUnixSeconds?_unixSeconds⟩

theorem IsWhole.ofUnixSeconds? {t : Instant} (whole : t.IsWhole) :
    Instant.ofUnixSeconds? t.unixSeconds = some t :=
  (ofUnixSeconds?_eq_some_iff _ t).2 whole

theorem IsWhole.floor_eq {t : Instant} (whole : t.IsWhole) : t.floor = t :=
  Option.some.inj (t.ofUnixSeconds?_unixSeconds.symm.trans whole.ofUnixSeconds?)

theorem isWhole_of_wholeSecond? {now t : Instant} (told : now.wholeSecond? = some t) :
    t.IsWhole := by
  unfold wholeSecond? at told
  split at told
  · simp at told
  · exact (isWhole_of_ofUnixSeconds? told).1

theorem IsWhole.seconds_since {t later floor : Instant} (whole : t.IsWhole) {d : Duration}
    (sum : t.add? d = some later) (told : Instant.ofUnixSeconds? later.unixSeconds = some floor) :
    (floor.since t).seconds = d.seconds := by
  have laterNanos := (add?_eq_some_iff t later d).1 sum
  have floorNanos := (ofUnixSeconds?_eq_some_iff _ floor).1 told
  unfold IsWhole at whole
  unfold unixSeconds at floorNanos whole
  simp only [since, nanosSince, Duration.seconds]
  omega

/-- The seconds of a length of time are as many after the last whole second as after the point in
time: the fractions make up less than a second, and what lies before the epoch is no more than the
fraction of the length of time, if that has any whole second. -/
def AddsWhole (t : Instant) (d : Duration) : Prop :=
  if 0 ≤ t.nanos then t.nanos % 1000000000 + d.nanos % 1000000000 < 1000000000
  else d.seconds = 0 ∨ -t.nanos ≤ d.nanos % 1000000000

instance (t : Instant) (d : Duration) : Decidable (t.AddsWhole d) := by
  unfold AddsWhole
  infer_instance

theorem unixSeconds_add_iff {t later : Instant} {d : Duration} (sum : t.add? d = some later) :
    t.unixSeconds + d.seconds = later.unixSeconds ↔ t.AddsWhole d := by
  have nanos := (add?_eq_some_iff t later d).1 sum
  unfold AddsWhole unixSeconds Duration.seconds
  rw [nanos]
  split
  · omega
  · omega

theorem unixSeconds_add_lt {t later : Instant} {d : Duration} (sum : t.add? d = some later) :
    t.unixSeconds + d.seconds < 0x10000000000000000 := by
  have nanos := (add?_eq_some_iff t later d).1 sum
  have range := later.inRange
  have longest := d.inRange
  unfold unixSeconds Duration.seconds
  omega

theorem exists_add?_since (t other : Instant) : ∃ later, t.add? (other.since t) = some later := by
  have nanos : (other.since t).nanos = (other.nanos - t.nanos).toNat := rfl
  by_cases ahead : t.nanos ≤ other.nanos
  · exact ⟨other, (add?_eq_some_iff t other _).2 (by omega)⟩
  · exact ⟨t, (add?_eq_some_iff t t _).2 (by omega)⟩

theorem IsWhole.unixSeconds_add_since {t other : Instant} (whole : t.IsWhole)
    (wholeOther : other.IsWhole) :
    t.unixSeconds + (other.since t).seconds = max t.unixSeconds other.unixSeconds := by
  unfold IsWhole at whole wholeOther
  simp only [since, nanosSince, Duration.seconds]
  omega

end SignedRequest.Instant
