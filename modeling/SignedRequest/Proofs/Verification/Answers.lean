import SignedRequest.Proofs.Time
import SignedRequest.Proofs.Verification.ClientStore
import SignedRequest.Proofs.Verification.Replay

/-!
Whether a receiver has an answer. Stores that do not fail leave one error: an acceptable signature
has a nonce that would be kept beyond the last point in time. Everything else that is reckoned with
times stays in range, whatever times a request claims.
-/

namespace SignedRequest

/-- At any reading of the clock the store finds a client, or has a reason to refuse the request. -/
def ClientStore.OnlyRefuses {σ : Type} (store : ClientStore σ) : Prop :=
  ∀ (now : Instant) (keyId : KeyId) (state : σ) (error : Error), keyId.isUnset = false →
    (store.get (some now) keyId state).1 = .error error → ∃ cause, error = .verification cause

def NonceStore.NeverFails {ν : Type} (store : NonceStore ν) : Prop :=
  ∀ (nonce : Nonce) (now : Instant) (state : ν),
    ∃ unused, (store.registerIfUnused nonce now state).1 = .ok unused

namespace ClientStore

theorem inMemory_onlyRefuses : inMemory.OnlyRefuses := by
  intro now keyId table error set failed
  simp only [inMemory, ClientTable.get, set] at failed
  cases found : table.clients.get? keyId with
  | some client => simp [found] at failed
  | none => exact ⟨_, by simpa [found] using failed.symm⟩

theorem OnlyRefuses.cached {σ : Type} {inner : ClientStore σ} (refuses : inner.OnlyRefuses)
    (lifetime : Duration) : (inner.cached lifetime).OnlyRefuses := by
  rintro now keyId ⟨state, cache⟩ error set failed
  have looked := inner.cached_get lifetime (some now) keyId state cache
  generalize ((inner.cached lifetime).get (some now) keyId (state, cache)).2 = after at looked
  generalize ((inner.cached lifetime).get (some now) keyId (state, cache)).1 = result
    at looked failed
  obtain ⟨later, remembered⟩ := after
  cases looked with
  | bypassed _ => exact refuses now keyId state error set failed
  | unread _ unread => simp at unread
  | remembered _ _ _ => simp at failed
  | fetched _ _ _ _ => simp at failed
  | failed _ _ _ missed =>
    refine refuses now keyId state error set ?_
    rw [missed, ← failed]

end ClientStore

theorem NonceStore.inMemory_neverFails : inMemory.NeverFails := by
  intro nonce now table
  simp only [inMemory]
  split
  · exact ⟨false, rfl⟩
  · exact ⟨true, rfl⟩

theorem Instant.ofNanos?_nanosSince (t earlier : Instant) :
    Duration.ofNanos? (t.nanosSince earlier) = some (t.since earlier) :=
  dif_pos (t.since earlier).inRange

namespace RequestVerifier

variable {σ ν : Type} (verifier : RequestVerifier σ ν)

/-- The signature has a nonce that would be kept beyond the last point in time. -/
def OutOfTime (signature : Signature) (client : Client) (now : Instant) : Prop :=
  (∃ value, signature.nonce = some value) ∧
    0x8000000000000000 * 1000000000 ≤
      now.nanos + (client.nonceLifetime.getD verifier.options.nonceLifetime).nanos

/-- The request has an acceptable signature of a client, with a nonce that outlasts time. -/
def Overruns (now : Instant) (request : Request) (clients : σ) : Prop :=
  ∃ signature client, verifier.Identified (some now) request clients signature client ∧
    (∃ requirement,
      ({ request
         signature
         client
         policy := verifier.policy
         now
         clockSkew := client.clockSkew.getD verifier.options.clockSkew } : Evidence).Admissible
        requirement) ∧
    verifier.OutOfTime signature client now

variable {verifier}

theorem accept_eq_error_iff (steady : verifier.nonces.NeverFails) (signature : Signature)
    (client : Client) (now : Instant) (nonces : ν) (error : Error) :
    (verifier.accept signature client now nonces).1 = .error error ↔
      error = .invalidArgument .nonceLifetime ∧ verifier.OutOfTime signature client now := by
  rw [OutOfTime, ← Instant.add?_eq_none_iff]
  unfold accept nonceLifetime
  cases signature.nonce with
  | none => simp
  | some value =>
    cases now.add? (client.nonceLifetime.getD verifier.options.nonceLifetime) with
    | none => simp [eq_comm]
    | some expiration =>
      obtain ⟨unused, registered⟩ := steady ⟨client.keyId, value, expiration⟩ now nonces
      simp only [reduceCtorEq, and_false, iff_false]
      split
      · simp_all
      · simp
      · simp

theorem judge_eq_error_iff (steady : verifier.nonces.NeverFails) (now : Instant)
    (request : Request) (signature : Signature) (client : Client) (nonces : ν) (error : Error) :
    (verifier.judge (some now) request signature client nonces).1 = .error error ↔
      error = .invalidArgument .nonceLifetime ∧
        (∃ requirement, (verifier.evidence request signature client now).Admissible requirement) ∧
        verifier.OutOfTime signature client now := by
  rw [← Evidence.check_eq_ok_iff]
  simp only [judge]
  cases checked : (verifier.evidence request signature client now).check with
  | error cause => simp
  | ok _ => simp [accept_eq_error_iff steady]

theorem verify_refuses (refuses : verifier.clients.OnlyRefuses) {now : Instant}
    {request : Request} {clients : σ} (unknown : ∀ signature client,
      ¬verifier.Identified (some now) request clients signature client) (nonces : ν)
    (error : Error) : (verifier.verify (some now) request clients nonces).1 ≠ .error error := by
  obtain ⟨-, ⟨cause, found, refused⟩ | ⟨found, other, complete, failed, foreign, -⟩⟩ :=
    verifier.verify_unidentified (some now) request clients nonces unknown
  · simp [refused]
  · obtain ⟨cause, verification⟩ := refuses now found.keyId clients other
      (Signature.isUnset_of_complete complete) failed
    exact absurd verification (foreign cause)

theorem verify_eq_error_iff (refuses : verifier.clients.OnlyRefuses)
    (steady : verifier.nonces.NeverFails) (now : Instant) (request : Request) (clients : σ)
    (nonces : ν) (error : Error) :
    (verifier.verify (some now) request clients nonces).1 = .error error ↔
      error = .invalidArgument .nonceLifetime ∧ verifier.Overruns now request clients := by
  by_cases known : ∃ signature client,
      verifier.Identified (some now) request clients signature client
  · obtain ⟨signature, client, identified⟩ := known
    rw [verify_of_identified verifier identified, judge_eq_error_iff steady]
    constructor
    · rintro ⟨rfl, outlasts⟩
      exact ⟨rfl, signature, client, identified, outlasts⟩
    · rintro ⟨rfl, found, owner, same, outlasts⟩
      obtain rfl := Option.some.inj (identified.received.symm.trans same.received)
      obtain rfl := Except.ok.inj (identified.known.symm.trans same.known)
      exact ⟨rfl, outlasts⟩
  · have unknown : ∀ signature client,
        ¬verifier.Identified (some now) request clients signature client :=
      fun signature client identified => known ⟨signature, client, identified⟩
    have none : ¬verifier.Overruns now request clients :=
      fun ⟨signature, client, identified, _⟩ => unknown signature client identified
    simp [verify_refuses refuses unknown nonces error, none]

/-- With stores that do not fail, a verification ends with an outcome exactly if no nonce of an
acceptable signature outlasts time, and otherwise with the error that its lifetime is of no use.
Whatever times a signature claims, the lengths of time between them and the present can be
represented, and so can the seconds in the text that is recomposed for them. -/
theorem verify_answers_iff (refuses : verifier.clients.OnlyRefuses)
    (steady : verifier.nonces.NeverFails) (now : Instant) (request : Request) (clients : σ)
    (nonces : ν) :
    ((∃ outcome, (verifier.verify (some now) request clients nonces).1 = .ok outcome) ↔
        ¬verifier.Overruns now request clients) ∧
      (verifier.Overruns now request clients →
        (verifier.verify (some now) request clients nonces).1 =
          .error (.invalidArgument .nonceLifetime)) ∧
      ∀ created expires : Instant,
        Duration.ofNanos? (created.nanosSince now) = some (created.since now) ∧
          Duration.ofNanos? (now.nanosSince expires) = some (now.since expires) ∧
          Duration.ofNanos? (expires.nanosSince created) = some (expires.since created) ∧
          SigningString.expiresSeconds created (expires.since created) =
            created.unixSeconds + (expires.since created).seconds := by
  have fails := verify_eq_error_iff refuses steady now request clients nonces
  have reckoned (t earlier : Instant) := Instant.ofNanos?_nanosSince t earlier
  refine ⟨?_, fun overruns => (fails _).2 ⟨rfl, overruns⟩, fun created expires =>
    ⟨reckoned _ _, reckoned _ _, reckoned _ _, SigningString.expiresSeconds_since created expires⟩⟩
  constructor
  · rintro ⟨outcome, answered⟩ overruns
    simp [(fails _).2 ⟨rfl, overruns⟩] at answered
  · intro lasting
    cases ended : (verifier.verify (some now) request clients nonces).1 with
    | ok outcome => exact ⟨outcome, rfl⟩
    | error error => exact absurd ((fails error).1 ended).2 lasting

end RequestVerifier

namespace Captured
open RequestVerifier

def retentive : RequestVerifier (ClientTable × ClientCache) NonceTable where
  clients := .cached .inMemory (.ofSeconds 60)
  nonces := .inMemory
  options := { nonceLifetime := .ofSeconds 0xffffffffffffffff }
  policy := verifier.policy

theorem retentive_unanswered :
    retentive.clients.OnlyRefuses ∧ retentive.nonces.NeverFails ∧
      (retentive.verify (some .epoch) (request "abc") (clients, .empty) .empty).1 =
        .error (.invalidArgument .nonceLifetime) ∧
      ¬∃ outcome, (retentive.verify (some .epoch) (request "abc") (clients, .empty) .empty).1 =
        .ok outcome := by
  have refuses : retentive.clients.OnlyRefuses := ClientStore.inMemory_onlyRefuses.cached _
  have steady : retentive.nonces.NeverFails := NonceStore.inMemory_neverFails
  have identified : retentive.Identified (some .epoch) (request "abc") (clients, .empty)
      (signature "abc") client :=
    { received := received_of_isSignature (by decide +kernel)
      valid := (signature "abc").validate_eq_ok_iff.2 ⟨by decide, by decide⟩
      known := rfl }
  obtain ⟨_, passed⟩ : ∃ passed,
      (retentive.evidence (request "abc") (signature "abc") client .epoch).check = .ok passed :=
    Outcome.exists_eq_ok (by decide +kernel)
  have overruns : retentive.Overruns .epoch (request "abc") (clients, .empty) :=
    ⟨_, _, identified, (Evidence.check_eq_ok_iff _).1 passed, ⟨"abc", rfl⟩, by decide⟩
  obtain ⟨answers, fails, -⟩ :=
    verify_answers_iff refuses steady .epoch (request "abc") (clients, .empty) .empty
  exact ⟨refuses, steady, fails overruns, fun answered => answers.1 answered overruns⟩

end Captured
end SignedRequest
