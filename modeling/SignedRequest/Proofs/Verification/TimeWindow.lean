import SignedRequest.Algorithm.Custom
import SignedRequest.Proofs.Time.Words
import SignedRequest.Proofs.Verification.Checks

/-!
When a signature passes the checks of its times. They compare lengths of time, which machine words
hold, and decide what sums of integers would: a signature passes from the time it was made to the
time it expires, either one put off by the clock skew. A time that is not told is no obstacle unless
it is listed, and a greater skew accepts whatever a smaller one does.
-/

namespace SignedRequest.Evidence

theorem refuse_eq (later earlier : Instant) (limit : Duration) (error : VerificationError) :
    (if limit.nanos < later.nanosSince earlier then .error error else .ok ()) =
      (if later.nanos ≤ earlier.nanos + limit.nanos then .ok () else .error error :
        Except VerificationError Unit) := by
  have bound := later.nanosSince_le_iff earlier limit
  by_cases within : later.nanos ≤ earlier.nanos + limit.nanos
  · rw [if_pos within, if_neg (Nat.not_lt.2 (bound.2 within))]
  · rw [if_neg within, if_pos (Nat.lt_of_not_le (mt bound.1 within))]

theorem refuse_eq_leads (later earlier : Instant) (limit : Duration) (error : VerificationError) :
    (if later.nanos ≤ earlier.nanos + limit.nanos then .ok () else .error error) =
      (if later.leads earlier limit then .error error else .ok () :
        Except VerificationError Unit) := by
  have told := later.leads_iff earlier limit
  by_cases within : later.nanos ≤ earlier.nanos + limit.nanos
  · rw [if_pos within, if_neg (mt told.1 (Int.not_lt.2 within))]
  · rw [if_neg within, if_pos (told.2 (Int.not_le.1 within))]

section
variable (evidence : Evidence)

theorem checkCreation_eq :
    evidence.checkCreation =
      match evidence.signature.created with
      | some created =>
        if created.nanos ≤ evidence.now.nanos + evidence.clockSkew.nanos then .ok ()
        else .error .createdInFuture
      | none =>
        if HeaderName.created.Occurs evidence.signature.headers then
          .error (.missingTimestamp .created)
        else .ok () := by
  unfold checkCreation
  cases evidence.signature.created with
  | none => simp only [Signature.lists_iff]
  | some created => exact refuse_eq created evidence.now evidence.clockSkew .createdInFuture

theorem checkExpiration_eq :
    evidence.checkExpiration =
      match evidence.signature.expires with
      | some expires =>
        if evidence.now.nanos ≤ expires.nanos + evidence.clockSkew.nanos then .ok ()
        else .error .expired
      | none =>
        if HeaderName.expires.Occurs evidence.signature.headers then
          .error (.missingTimestamp .expires)
        else .ok () := by
  unfold checkExpiration
  cases evidence.signature.expires with
  | none => simp only [Signature.lists_iff]
  | some expires => exact refuse_eq evidence.now expires evidence.clockSkew .expired

variable {evidence} {skew : Duration}

theorem checkCreation_of_le (longer : evidence.clockSkew.nanos ≤ skew.nanos)
    (passed : evidence.checkCreation = .ok ()) :
    { evidence with clockSkew := skew }.checkCreation = .ok () := by
  cases told : evidence.signature.created with
  | none =>
    unfold checkCreation at passed ⊢
    rw [told] at passed
    simpa only [told] using passed
  | some created =>
    have begun := (evidence.checkCreation_eq_ok_iff created told).1 passed
    apply ({ evidence with clockSkew := skew }.checkCreation_eq_ok_iff created told).2
    dsimp only
    omega

theorem checkExpiration_of_le (longer : evidence.clockSkew.nanos ≤ skew.nanos)
    (passed : evidence.checkExpiration = .ok ()) :
    { evidence with clockSkew := skew }.checkExpiration = .ok () := by
  cases told : evidence.signature.expires with
  | none =>
    unfold checkExpiration at passed ⊢
    rw [told] at passed
    simpa only [told] using passed
  | some expires =>
    have lasting := (evidence.checkExpiration_eq_ok_iff expires told).1 passed
    apply ({ evidence with clockSkew := skew }.checkExpiration_eq_ok_iff expires told).2
    dsimp only
    omega

theorem check_of_le (longer : evidence.clockSkew.nanos ≤ skew.nanos)
    (passed : evidence.check = .ok ()) :
    { evidence with clockSkew := skew }.check = .ok () := by
  unfold check at passed ⊢
  rw [Check.runAll_eq_ok_iff] at passed ⊢
  intro check listed
  have before := passed check listed
  -- Of all the checks two look at the skew.
  cases check with
  | creation => exact checkCreation_of_le longer before
  | expiration => exact checkExpiration_of_le longer before
  | algorithm => exact before
  | createdAllowed => exact before
  | expiresAllowed => exact before
  | headers => exact before
  | digest => exact before
  | signature => exact before

theorem window_iff {created expires : Instant}
    (begins : evidence.signature.created = some created)
    (ends : evidence.signature.expires = some expires) (now : Instant) :
    { evidence with now }.checkCreation = .ok () ∧ { evidence with now }.checkExpiration = .ok () ↔
      created.nanos - evidence.clockSkew.nanos ≤ now.nanos ∧
        now.nanos ≤ expires.nanos + evidence.clockSkew.nanos := by
  rw [checkCreation_eq_ok_iff { evidence with now } created begins,
    checkExpiration_eq_ok_iff { evidence with now } expires ends]
  dsimp only
  omega

end

/-- The two checks of times decide by the integers, whatever they are: a signature must not have been
made later than now and the skew, and not have expired earlier than now without it; a time that is
not told must not be listed. They need no more than the words of the times, none of which overflows.
So both are passed from the time of signing to the time of expiry, put off by the skew, and a
greater skew refuses nothing that is accepted, by these checks or by all of them. -/
theorem times_checked (evidence : Evidence) :
    (evidence.checkCreation =
      match evidence.signature.created with
      | some created =>
        if created.nanos ≤ evidence.now.nanos + evidence.clockSkew.nanos then .ok ()
        else .error .createdInFuture
      | none =>
        if HeaderName.created.Occurs evidence.signature.headers then
          .error (.missingTimestamp .created)
        else .ok ()) ∧
      (evidence.checkExpiration =
        match evidence.signature.expires with
        | some expires =>
          if evidence.now.nanos ≤ expires.nanos + evidence.clockSkew.nanos then .ok ()
          else .error .expired
        | none =>
          if HeaderName.expires.Occurs evidence.signature.headers then
            .error (.missingTimestamp .expires)
          else .ok ()) ∧
      (∀ created, evidence.signature.created = some created →
        evidence.checkCreation =
          if created.leads evidence.now evidence.clockSkew then .error .createdInFuture
          else .ok ()) ∧
      (∀ expires, evidence.signature.expires = some expires →
        evidence.checkExpiration =
          if evidence.now.leads expires evidence.clockSkew then .error .expired else .ok ()) ∧
      (∀ created expires, evidence.signature.created = some created →
        evidence.signature.expires = some expires → ∀ now : Instant,
          ({ evidence with now }.checkCreation = .ok () ∧
            { evidence with now }.checkExpiration = .ok () ↔
              created.nanos - evidence.clockSkew.nanos ≤ now.nanos ∧
                now.nanos ≤ expires.nanos + evidence.clockSkew.nanos)) ∧
      ∀ skew : Duration, evidence.clockSkew.nanos ≤ skew.nanos →
        (evidence.checkCreation = .ok () →
          { evidence with clockSkew := skew }.checkCreation = .ok ()) ∧
        (evidence.checkExpiration = .ok () →
          { evidence with clockSkew := skew }.checkExpiration = .ok ()) ∧
        (evidence.check = .ok () → { evidence with clockSkew := skew }.check = .ok ()) := by
  refine ⟨evidence.checkCreation_eq, evidence.checkExpiration_eq, ?_, ?_, ?_, ?_⟩
  · intro created begins
    rw [checkCreation_eq, begins]
    exact refuse_eq_leads created evidence.now evidence.clockSkew .createdInFuture
  · intro expires ends
    rw [checkExpiration_eq, ends]
    exact refuse_eq_leads evidence.now expires evidence.clockSkew .expired
  · intro created expires begins ends now
    exact window_iff begins ends now
  · intro skew longer
    exact ⟨checkCreation_of_le longer, checkExpiration_of_le longer, check_of_le longer⟩

namespace Extremes

def earliest : Instant := ⟨-(0x8000000000000000 * 1000000000), by decide⟩

def latest : Instant := ⟨0x8000000000000000 * 1000000000 - 1, by decide⟩

def longest : Duration := ⟨0x10000000000000000 * 1000000000 - 1, by decide⟩

def almostLongest : Duration := ⟨0x10000000000000000 * 1000000000 - 2, by decide⟩

def evidence : Evidence where
  request := .ofMethodAndTarget .get (.origin "/")
  signature :=
    { keyId := ⟨"client"⟩
      algorithm := none
      created := some latest
      expires := some earliest
      headers := [.requestTarget, .created, .expires]
      string := "AA=="
      nonce := none }
  client :=
    { keyId := ⟨"client"⟩
      name := "client"
      algorithm := CustomAlgorithm.ofFunction "one" .sha256 fun _ _ => .ok [0] }
  policy := .standard
  now := .epoch
  clockSkew := almostLongest

theorem extremes_checked :
    evidence.check = .ok () ∧ { evidence with clockSkew := longest }.check = .ok () ∧
      { evidence with now := earliest }.checkCreation = .error .createdInFuture ∧
      { evidence with now := earliest, clockSkew := longest }.checkCreation = .ok () ∧
      { evidence with now := earliest, clockSkew := longest }.checkExpiration = .ok () := by
  have passes : evidence.check.toOption.isSome = true := by decide +kernel
  obtain ⟨⟨⟩, accepted⟩ := Outcome.exists_eq_ok passes
  have longer : evidence.clockSkew.nanos ≤ longest.nanos := by decide
  obtain ⟨-, -, -, -, -, patient⟩ := times_checked evidence
  obtain ⟨-, -, early, -, -, -⟩ := times_checked { evidence with now := earliest }
  obtain ⟨-, -, -, -, window, -⟩ := times_checked { evidence with clockSkew := longest }
  have refused : latest.leads earliest almostLongest = true := by decide +kernel
  refine ⟨accepted, (patient longest longer).2.2 accepted, ?_, ?_⟩
  · exact (early latest rfl).trans (if_pos refused)
  · exact (window latest earliest rfl rfl earliest).2 (by decide)

end Extremes

end SignedRequest.Evidence
