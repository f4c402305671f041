import SignedRequest.Proofs.Verification.Replay

/-!
For how long a nonce has to be remembered. A signature is accepted from when it was made until it
expires, and at both ends for as long again as clocks may be wrong. A request is accepted only once
if nonces live longer than that. That they live as long as the signature is not enough: then the
request is accepted once more at the moment that its nonce lapses.
-/

namespace SignedRequest

namespace RequestVerifier

section

variable {σ ν : Type} (verifier : RequestVerifier σ ν)

/-- A nonce that is used as early as a signature is accepted for a client lives until it is too late
for the signature, for the client as it is known by then. -/
def Outlasts (signature : Signature) (client other : Client) : Prop :=
  ∀ created expires, signature.created = some created → signature.expires = some expires →
    expires.nanos + (other.clockSkew.getD verifier.options.clockSkew).nanos <
      created.nanos - (client.clockSkew.getD verifier.options.clockSkew).nanos +
        (client.nonceLifetime.getD verifier.options.nonceLifetime).nanos

variable {verifier} {now : Instant} {request : Request} {clients : σ} {nonces : ν}
  {client : Client} {signature : Signature}

theorem Accepted.timed
    (accepted : verifier.Accepted now request clients nonces client signature) :
    ∃ created expires, signature.created = some created ∧ signature.expires = some expires := by
  obtain ⟨_, admissible⟩ := accepted.admissible
  obtain ⟨created, expires, _, begun, lasting, -⟩ := admissible.signed
  exact ⟨created, expires, begun, lasting⟩

theorem Accepted.timely
    (accepted : verifier.Accepted now request clients nonces client signature) :
    verifier.Timely signature client now := by
  obtain ⟨_, admissible⟩ := accepted.admissible
  obtain ⟨created, expires, _, begun, lasting, early, late, -⟩ := admissible.signed
  constructor
  · intro time told
    obtain rfl := Option.some.inj (begun.symm.trans told)
    exact early
  · intro time told
    obtain rfl := Option.some.inj (lasting.symm.trans told)
    exact late

theorem Timely.lt_of_outlasts {first second : Instant} {other : Client}
    (begun : verifier.Timely signature client first)
    (ended : verifier.Timely signature other second)
    (outlasts : verifier.Outlasts signature client other) {created expires : Instant}
    (start : signature.created = some created) (stop : signature.expires = some expires) :
    second.nanos <
      first.nanos + (client.nonceLifetime.getD verifier.options.nonceLifetime).nanos := by
  have early := begun.created created start
  have late := ended.expires expires stop
  have lasting := outlasts created expires start stop
  omega

theorem Timely.of_not_outlasts {first second : Instant}
    (begun : verifier.Timely signature client first)
    (short : ¬verifier.Outlasts signature client client)
    (earliest : ∀ created, signature.created = some created →
      first.nanos = created.nanos - (client.clockSkew.getD verifier.options.clockSkew).nanos)
    (lapsed : second.nanos =
      first.nanos + (client.nonceLifetime.getD verifier.options.nonceLifetime).nanos) :
    verifier.Timely signature client second where
  created := by
    intro created told
    have early := begun.created created told
    omega
  expires := by
    intro expires told
    simp only [Outlasts, not_forall, Int.not_lt] at short
    obtain ⟨created, stop, start, lasting, reached⟩ := short
    obtain rfl := Option.some.inj (told.symm.trans lasting)
    have moment := earliest created start
    omega

theorem Respells.refl (received : received? verifier.options request = some signature)
    {value : String} (told : signature.nonce = some value) :
    verifier.Respells request request signature value where
  received := by rw [received, ← told]
  agrees := { method := rfl, target := rfl, values := fun _ _ => rfl }
  body := rfl
  trimmed := by
    intro other toldAgain
    rw [Option.some.inj (told.symm.trans toldAgain)]

end

variable {σ : Type} (verifier : RequestVerifier σ NonceTable)
  (inMemory : verifier.nonces = .inMemory)
include inMemory

/-- Requests with one signature are accepted once in a run if its nonce outlasts it. If the nonce
does not, a request that is accepted at the earliest moment is accepted again, as the next one, at
the moment its nonce lapses. -/
theorem visits_accept_once (calls : List (Option Instant × Request)) (clients : σ)
    (nonces : NonceTable) :
    ((verifier.visits calls clients nonces).Pairwise fun earlier later =>
      ∀ (first second : Instant) (client other : Client) (signature again : Signature)
        (value : String),
        received? verifier.options earlier.request = received? verifier.options later.request →
          earlier.Accepts first client signature → later.Accepts second other again →
            client.keyId = other.keyId → signature.nonce = some value →
              ¬verifier.Outlasts signature client other) ∧
    ∀ (request : Request) (first second : Instant) (client : Client) (signature : Signature)
      (value : String) (later : σ) (used : NonceTable),
        verifier.verify (some first) request clients nonces =
          (.ok (.success client signature), later, used) →
        signature.nonce = some value →
        (∀ created, signature.created = some created → first.nanos =
          created.nanos - (client.clockSkew.getD verifier.options.clockSkew).nanos) →
        ¬verifier.Outlasts signature client client →
        second.nanos =
          first.nanos + (client.nonceLifetime.getD verifier.options.nonceLifetime).nanos →
        (∃ expiration : Instant,
          expiration.nanos =
            second.nanos + (client.nonceLifetime.getD verifier.options.nonceLifetime).nanos) →
        (verifier.clients.get (some second) signature.keyId later).1 = .ok client →
          (verifier.verify (some second) request later used).1 =
            .ok (.success client signature) := by
  constructor
  · refine verifier.visits_pairwise ?_ calls clients nonces
    intro reading request clients nonces calls later member first second client other signature
      again value same accepts repeats owner told outlasts
    have accepted := accepts.accepted verifier rfl
    obtain ⟨_, _, repeated⟩ := verifier.accepted_of_mem_visits member repeats
    obtain rfl : signature = again :=
      Option.some.inj (accepted.received?.symm.trans (same.trans repeated.received?))
    obtain ⟨created, expires, start, stop⟩ := accepted.timed
    have apart := verifier.le_of_accepted_again inMemory accepts told calls later member second
      other signature repeats owner.symm told
    -- Both are in time for one signature, hence less than the lifetime apart.
    have close := accepted.timely.lt_of_outlasts repeated.timely outlasts start stop
    omega
  · intro request first second client signature value later used answered told earliest short
      lapsed lasting known
    obtain ⟨now, read, accepted⟩ := verifier.accepted_of_verify (congrArg Prod.fst answered)
    obtain rfl := Option.some.inj read
    have timely := accepted.timely.of_not_outlasts short earliest lapsed
    have respells := Respells.refl accepted.received? told
    have again := (verifier.verify_respelled_iff inMemory answered told respells known timely).2
      ⟨lasting, fun _ => Int.le_of_eq lapsed.symm, fun other => absurd rfl other⟩
    rw [again, ← told]

end RequestVerifier

namespace Captured
open RequestVerifier

def patient : RequestVerifier ClientTable NonceTable :=
  { verifier with options := { nonceLifetime := .ofSeconds 421 } }

theorem accepted_once :
    patient.nonces = .inMemory ∧ patient.Outlasts (signature "abc") client client ∧
      ∃ earlier later, patient.visits (calls "abc" lapse "abc") clients .empty = [earlier, later] ∧
        earlier.Accepts .epoch client (signature "abc") ∧
        ¬later.Accepts lapse client (signature "abc") := by
  have outlasts : patient.Outlasts (signature "abc") client client := by
    intro created expires start stop
    cases start
    cases stop
    decide
  obtain ⟨used, answered⟩ : ∃ used, patient.verify (some .epoch) (request "abc") clients .empty =
      (.ok (.success client (signature "abc")), clients, used) :=
    answered_of_isSuccess rfl (by decide +kernel)
  have run := patient.visits_pair (some .epoch) (some lapse) (request "abc") (request "abc")
    clients .empty
  have once := (patient.visits_accept_once rfl (calls "abc" lapse "abc") clients .empty).1
  rw [answered] at run
  rw [calls, run] at once
  have accepts : Visit.Accepts ⟨some .epoch, request "abc", .ok (.success client _)⟩ .epoch client
      (signature "abc") := Visit.accepts_of_success rfl
  exact ⟨rfl, outlasts, _, _, run, accepts, fun repeats =>
    List.pairwise_pair.1 once .epoch lapse client client _ _ "abc" rfl accepts repeats rfl rfl
      outlasts⟩

/-- The receiver that keeps to the customary lifetime, which is that of the signature, accepts the
captured request twice. -/
theorem accepted_twice :
    verifier.nonces = .inMemory ∧
      lapse.nanos - Instant.epoch.nanos ≤
        (client.nonceLifetime.getD verifier.options.nonceLifetime).nanos ∧
      Instant.epoch.nanos ≤ lapse.nanos ∧
      ∃ earlier later,
        verifier.visits (calls "abc" lapse "abc") clients .empty = [earlier, later] ∧
        earlier.request = later.request ∧ earlier.Accepts .epoch client (signature "abc") ∧
        later.Accepts lapse client (signature "abc") ∧
        (signature "abc").nonce = some "abc" ∧ (signature "abc").created = some .epoch ∧
        (signature "abc").expires = some lapse := by
  obtain ⟨used, answered⟩ := answered
  have received : received? verifier.options (request "abc") = some (signature "abc") :=
    received_of_isSignature (by decide +kernel)
  have timely : verifier.Timely (signature "abc") client lapse :=
    { created := fun time told => Option.some.inj told ▸ by decide
      expires := fun time told => Option.some.inj told ▸ by decide }
  have again := (verifier.verify_respelled_iff rfl answered rfl (.refl received rfl) rfl timely).2
    ⟨⟨⟨600000000000, by decide⟩, rfl⟩, by decide, fun other => absurd rfl other⟩
  have run := verifier.visits_pair (some .epoch) (some lapse) (request "abc") (request "abc")
    clients .empty
  rw [answered] at run
  exact ⟨rfl, by decide, by decide, _, _, run, rfl, Visit.accepts_of_success rfl,
    Visit.accepts_of_success again, rfl, rfl, rfl⟩

end Captured
end SignedRequest
