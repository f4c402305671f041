import SignedRequest.Proofs.Authorization.Reading
import SignedRequest.Proofs.SigningString
import SignedRequest.Proofs.Verification.NonceRuns

/-!
One signed text that is presented twice. What is signed of a nonce is what trimming leaves of it,
and what is remembered is the nonce as it is written. Hence the lifetime lies between two
acceptances of one text if the nonce is written in one way, and need not if white space around it
differs.
-/

namespace SignedRequest

/-- The text that a signature is checked against, if both its times are told. -/
def Signature.recomposed? (signature : Signature) (request : Request) : Option String :=
  signature.created.bind fun created => signature.expires.map fun expires =>
    SigningString.compose request signature.headers created (expires.since created) signature.nonce

theorem Signature.recomposed?_eq_some_iff (signature : Signature) (request : Request)
    (text : String) :
    signature.recomposed? request = some text ↔
      ∃ created expires, signature.created = some created ∧ signature.expires = some expires ∧
        SigningString.compose request signature.headers created (expires.since created)
          signature.nonce = text := by
  simp only [recomposed?, Option.bind_eq_some_iff, Option.map_eq_some_iff]
  constructor
  · intro found
    obtain ⟨created, begun, expires, lasting, composed⟩ := found
    exact ⟨created, expires, begun, lasting, composed⟩
  · intro found
    obtain ⟨created, expires, begun, lasting, composed⟩ := found
    exact ⟨created, begun, expires, lasting, composed⟩

namespace RequestVerifier

section

variable {σ ν : Type} (verifier : RequestVerifier σ ν)

theorem nonce_of_received? {options : VerificationOptions} {request : Request}
    {signature : Signature} (received : received? options request = some signature)
    {value : String} (told : signature.nonce = some value) :
    value ≠ "" ∧ '\n' ∉ value.toList := by
  obtain ⟨header, parameters, carried, stripped, parsed⟩ :=
    (received?_eq_some_iff options request signature).1 received
  obtain ⟨nonempty, inside⟩ := Authorization.nonce_of_parse parsed told
  refine ⟨nonempty, fun member => ?_⟩
  exact request.lineFeed_not_mem carried
    (Authorization.mem_of_stripScheme? stripped _ (inside _ member))

theorem Accepted.received? {verifier : RequestVerifier σ ν} {now : Instant} {request : Request}
    {clients : σ} {nonces : ν} {client : Client} {signature : Signature}
    (accepted : verifier.Accepted now request clients nonces client signature) :
    RequestVerifier.received? verifier.options request = some signature :=
  (received?_eq_some_iff verifier.options request signature).2 accepted.received

theorem Accepted.trim_eq {verifier : RequestVerifier σ ν} {first second : Instant}
    {request other : Request} {clients later : σ} {nonces used : ν} {client owner : Client}
    {signature again : Signature}
    (accepted : verifier.Accepted first request clients nonces client signature)
    (repeated : verifier.Accepted second other later used owner again) {value nonce text : String}
    (told : signature.nonce = some value) (toldAgain : again.nonce = some nonce)
    (composed : signature.recomposed? request = some text)
    (recomposed : again.recomposed? other = some text) : Text.trim value = Text.trim nonce := by
  obtain ⟨created, expires, _, _, same⟩ := (signature.recomposed?_eq_some_iff _ _).1 composed
  obtain ⟨createdAgain, expiresAgain, _, _, sameAgain⟩ :=
    (again.recomposed?_eq_some_iff _ _).1 recomposed
  obtain ⟨nonempty, unbroken⟩ := nonce_of_received? accepted.received? told
  obtain ⟨nonemptyAgain, unbrokenAgain⟩ := nonce_of_received? repeated.received? toldAgain
  have line := SigningString.lastLine_compose request signature.headers created
    (expires.since created) nonempty unbroken
  have lineAgain := SigningString.lastLine_compose other again.headers createdAgain
    (expiresAgain.since createdAgain) nonemptyAgain unbrokenAgain
  -- The times and the names may differ, so the texts are compared on their last line alone.
  rw [← told, same] at line
  rw [← toldAgain, sameAgain, line, String.toList_append, String.toList_append,
    List.append_cancel_left_eq] at lineAgain
  exact String.toList_injective lineAgain

/-- Another request has the same signature, except that white space around its nonce may differ, and
agrees on what is signed. -/
structure Respells (request again : Request) (signature : Signature) (nonce : String) : Prop where
  received : received? verifier.options again = some { signature with nonce := some nonce }
  agrees : SigningString.Agrees again request signature.headers
  body : again.body = request.body
  trimmed : ∀ value, signature.nonce = some value → Text.trim nonce = Text.trim value

/-- The times of a signature lie around a point in time, as far as clocks can be trusted. -/
structure Timely (signature : Signature) (client : Client) (now : Instant) : Prop where
  created : ∀ time, signature.created = some time →
    time.nanos ≤ now.nanos + (client.clockSkew.getD verifier.options.clockSkew).nanos
  expires : ∀ time, signature.expires = some time →
    now.nanos ≤ time.nanos + (client.clockSkew.getD verifier.options.clockSkew).nanos

variable {verifier} {request again : Request} {signature : Signature} {nonce : String}

theorem Respells.composed (respells : verifier.Respells request again signature nonce)
    {value : String} (told : signature.nonce = some value) (nonempty : value ≠ "")
    (time : Instant) (lifetime : Duration) :
    SigningString.compose again signature.headers time lifetime (some nonce) =
      SigningString.compose request signature.headers time lifetime signature.nonce := by
  have nonemptyAgain := (nonce_of_received? respells.received rfl).1
  have line : SigningString.nonceLine? (some nonce) = SigningString.nonceLine? signature.nonce := by
    rw [told, SigningString.nonceLine?_some nonempty, SigningString.nonceLine?_some nonemptyAgain,
      respells.trimmed value told]
  rw [SigningString.compose_congr time _ respells.agrees]
  simp only [SigningString.compose, SigningString.lines, line]

theorem Respells.recomposed (respells : verifier.Respells request again signature nonce)
    {value : String} (told : signature.nonce = some value) (nonempty : value ≠ "") :
    ({ signature with nonce := some nonce } : Signature).recomposed? again =
      signature.recomposed? request := by
  simp only [Signature.recomposed?, respells.composed told nonempty]

theorem Respells.admissible (respells : verifier.Respells request again signature nonce)
    {value : String} (told : signature.nonce = some value) (nonempty : value ≠ "")
    {client : Client} {first second : Instant} {requirement : HeaderRequirement}
    (admissible : (verifier.evidence request signature client first).Admissible requirement)
    (timely : verifier.Timely signature client second) :
    (verifier.evidence again { signature with nonce := some nonce } client second).Admissible
      requirement :=
  { admissible with
    present := by
      intro name listed header
      change again.fieldTexts name.text ≠ []
      rw [respells.agrees.values name listed]
      exact admissible.present name listed header
    digest := by
      intro listed
      have values := respells.agrees.fieldTexts_eq listed
      obtain ⟨found, carried, digested⟩ := admissible.digest listed
      refine ⟨found, (congrArg List.head? values).trans carried, ?_⟩
      change matchesDigest found (again.body.getD []) = true
      rw [respells.body]
      exact digested
    signed := by
      obtain ⟨created, expires, octets, begun, lasting, _, _, decoded, verified⟩ :=
        admissible.signed
      refine ⟨created, expires, octets, begun, lasting, timely.created created begun,
        timely.expires expires lasting, decoded, ?_⟩
      change client.algorithm.verify (Bytes.ofText (SigningString.compose again signature.headers
        created (expires.since created) (some nonce))) octets = .ok true
      rw [respells.composed told nonempty]
      exact verified }

theorem Respells.verify_iff (respells : verifier.Respells request again signature nonce)
    {value : String} (told : signature.nonce = some value) {client : Client}
    {first second : Instant} {clients later : σ} {nonces used : ν}
    (accepted : verifier.Accepted first request clients nonces client signature)
    (known : (verifier.clients.get (some second) signature.keyId later).1 = .ok client)
    (timely : verifier.Timely signature client second) :
    (verifier.verify (some second) again later used).1 =
        .ok (.success client { signature with nonce := some nonce }) ↔
      verifier.Fresh { signature with nonce := some nonce } client second used := by
  constructor
  · intro success
    obtain ⟨now, read, repeated⟩ := verifier.accepted_of_verify success
    cases read
    exact repeated.fresh
  · intro fresh
    obtain ⟨requirement, admissible⟩ := accepted.admissible
    have nonempty := (nonce_of_received? accepted.received? told).1
    apply verifier.verify_of_accepted
    exact
      { received := (received?_eq_some_iff _ _ _).1 respells.received
        named := accepted.named
        signed := accepted.signed
        known
        admissible := ⟨requirement, respells.admissible told nonempty admissible timely⟩
        fresh }

end

variable {σ : Type} (verifier : RequestVerifier σ NonceTable) {nonces : NonceTable}

theorem fresh_inMemory_iff (inMemory : verifier.nonces = .inMemory) {signature : Signature}
    {value : String} (told : signature.nonce = some value) (client : Client) (now : Instant) :
    verifier.Fresh signature client now nonces ↔
      (∃ expiration : Instant,
        expiration.nanos =
          now.nanos + (client.nonceLifetime.getD verifier.options.nonceLifetime).nanos) ∧
      nonces.isLive client.keyId value now = false := by
  unfold Fresh
  simp only [told, Option.some.injEq, forall_eq', inMemory, NonceStore.inMemory]
  by_cases live : nonces.isLive client.keyId value now = true
  · simp [live]
  · simp [live]

theorem NonceEffect.not_live_iff {first : Instant} {client : Client} {signature : Signature}
    {after : NonceTable}
    (effect : verifier.NonceEffect (some first) nonces (.ok (.success client signature)) after)
    {value : String} (told : signature.nonce = some value) (nonce : String) (second : Instant) :
    after.isLive client.keyId nonce second = false ↔
      (nonce = value →
        first.nanos + (client.nonceLifetime.getD verifier.options.nonceLifetime).nanos ≤
          second.nanos) ∧
        (nonce ≠ value → nonces.isLive client.keyId nonce second = false) := by
  cases effect with
  | registered read toldAgain lasting lapsed =>
    cases read
    cases told.symm.trans toldAgain
    unfold NonceTable.isLive
    rw [NonceTable.get?_put]
    by_cases same : nonce = value
    · subst same
      simp [lasting]
    · simp [same, Ne.symm same]
  | unused silent => simp [silent client signature rfl] at told

def Visit.AcceptsText (visit : Visit) (now : Instant) (client : Client) (nonce text : String) :
    Prop :=
  ∃ signature, visit.Accepts now client signature ∧ signature.nonce = some nonce ∧
    signature.recomposed? visit.request = some text

variable (inMemory : verifier.nonces = .inMemory)
include inMemory

theorem verify_respelled_iff {request again : Request} {clients later : σ} {used : NonceTable}
    {first second : Instant} {client : Client} {signature : Signature} {value nonce : String}
    (answered : verifier.verify (some first) request clients nonces =
      (.ok (.success client signature), later, used))
    (told : signature.nonce = some value)
    (respells : verifier.Respells request again signature nonce)
    (known : (verifier.clients.get (some second) signature.keyId later).1 = .ok client)
    (timely : verifier.Timely signature client second) :
    (verifier.verify (some second) again later used).1 =
        .ok (.success client { signature with nonce := some nonce }) ↔
      (∃ expiration : Instant,
        expiration.nanos =
          second.nanos + (client.nonceLifetime.getD verifier.options.nonceLifetime).nanos) ∧
      (nonce = value →
        first.nanos + (client.nonceLifetime.getD verifier.options.nonceLifetime).nanos ≤
          second.nanos) ∧
      (nonce ≠ value → nonces.isLive client.keyId nonce second = false) := by
  obtain ⟨now, read, accepted⟩ := verifier.accepted_of_verify (congrArg Prod.fst answered)
  cases read
  have effect : verifier.NonceEffect (some first) nonces _ _ :=
    verifier.verify_effect inMemory (some first) request clients
  rw [answered] at effect
  rw [respells.verify_iff told accepted known timely, verifier.fresh_inMemory_iff inMemory rfl,
    effect.not_live_iff verifier told]

/-- Two acceptances of one signed text lie at least the lifetime apart if the nonce is written in
one way, and only white space around the nonce can make a difference. It does: as long as the times
of a signature are met, the next request is accepted with it at once if the nonce is written in a
new way. -/
theorem visits_text_apart (calls : List (Option Instant × Request)) (clients : σ)
    (nonces : NonceTable) :
    ((verifier.visits calls clients nonces).Pairwise fun earlier later =>
      ∀ (first second : Instant) (client other : Client) (value nonce text : String),
        earlier.AcceptsText first client value text → later.AcceptsText second other nonce text →
          client.keyId = other.keyId →
            Text.trim nonce = Text.trim value ∧
              (nonce = value →
                first.nanos + (client.nonceLifetime.getD verifier.options.nonceLifetime).nanos ≤
                  second.nanos)) ∧
    ∀ (request again : Request) (first second : Instant) (client : Client) (signature : Signature)
      (value nonce : String) (later : σ) (used : NonceTable),
        verifier.verify (some first) request clients nonces =
          (.ok (.success client signature), later, used) →
        signature.nonce = some value →
        verifier.Respells request again signature nonce →
        (verifier.clients.get (some second) signature.keyId later).1 = .ok client →
        verifier.Timely signature client second →
          ({ signature with nonce := some nonce } : Signature).recomposed? again =
            signature.recomposed? request ∧
          ((verifier.verify (some second) again later used).1 =
              .ok (.success client { signature with nonce := some nonce }) ↔
            (∃ expiration : Instant,
              expiration.nanos = second.nanos +
                (client.nonceLifetime.getD verifier.options.nonceLifetime).nanos) ∧
            (nonce = value →
              first.nanos + (client.nonceLifetime.getD verifier.options.nonceLifetime).nanos ≤
                second.nanos) ∧
            (nonce ≠ value → nonces.isLive client.keyId nonce second = false)) := by
  constructor
  · refine verifier.visits_pairwise ?_ calls clients nonces
    intro reading request clients nonces calls later member first second client other value nonce
      text accepting repeating same
    obtain ⟨signature, accepts, told, composed⟩ := accepting
    obtain ⟨again, repeats, toldAgain, recomposed⟩ := repeating
    obtain ⟨_, _, accepted⟩ := verifier.accepted_of_verify accepts.2
    obtain ⟨before, used, called⟩ := verifier.exists_call_of_mem_visits member
    obtain ⟨_, _, repeated⟩ := verifier.accepted_of_verify (called ▸ repeats.2)
    refine ⟨repeated.trim_eq accepted toldAgain told recomposed composed, ?_⟩
    intro same
    subst same
    exact verifier.le_of_accepted_again inMemory accepts told calls later member second other again
      repeats same.symm toldAgain
  · intro request again first second client signature value nonce later used answered told
      respells known timely
    obtain ⟨_, _, accepted⟩ := verifier.accepted_of_verify (congrArg Prod.fst answered)
    have nonempty := (nonce_of_received? accepted.received? told).1
    exact ⟨respells.recomposed told nonempty,
      verifier.verify_respelled_iff inMemory answered told respells known timely⟩

end RequestVerifier

namespace Captured
open RequestVerifier

def isSuccess (nonce : String) : Except Error VerificationOutcome → Bool
  | .ok (.success _ read) => isSignature nonce read
  | _ => false

theorem answered_of_isSuccess {receiver : RequestVerifier ClientTable NonceTable}
    (inMemory : receiver.clients = .inMemory) {now : Instant} {request : Request} {nonce : String}
    {nonces : NonceTable}
    (accepted : isSuccess nonce (receiver.verify (some now) request clients nonces).1 = true) :
    ∃ used, receiver.verify (some now) request clients nonces =
      (.ok (.success client (signature nonce)), clients, used) := by
  unfold isSuccess at accepted
  split at accepted
  · rename_i other read success
    obtain rfl := eq_of_isSignature accepted
    obtain ⟨identified, judged⟩ := (receiver.verify_success_iff_judged _ _ _ _ _ _).1 success
    have found := identified.known
    rw [inMemory] at found
    obtain rfl : client = other := Except.ok.inj found
    rw [receiver.verify_of_identified identified, judged, inMemory]
    exact ⟨_, rfl⟩
  · simp at accepted

theorem answered : ∃ used, verifier.verify (some .epoch) (request "abc") clients .empty =
    (.ok (.success client (signature "abc")), clients, used) :=
  answered_of_isSuccess rfl (by decide +kernel)

theorem respells :
    verifier.Respells (request "abc") (request " abc") (signature "abc") " abc" where
  received := received_of_isSignature (by decide +kernel)
  agrees :=
    { method := rfl
      target := rfl
      values := by
        have signed : (request " abc").fieldTexts "(request-target)" =
            (request "abc").fieldTexts "(request-target)" := by decide +kernel
        intro name member
        rw [List.mem_singleton.1 member]
        exact signed }
  body := rfl
  trimmed := by
    intro value told
    cases told
    decide +kernel

theorem timely : verifier.Timely (signature "abc") client .epoch where
  created := by
    intro time told
    cases told
    decide
  expires := by
    intro time told
    cases told
    decide

theorem text_not_apart :
    verifier.nonces = .inMemory ∧
      ∃ earlier later,
        verifier.visits (calls "abc" .epoch " abc") clients .empty = [earlier, later] ∧
        ∃ text, earlier.AcceptsText .epoch client "abc" text ∧
          later.AcceptsText .epoch client " abc" text ∧ Text.trim " abc" = Text.trim "abc" ∧
            Instant.epoch.nanos < Instant.epoch.nanos +
              (client.nonceLifetime.getD verifier.options.nonceLifetime).nanos := by
  obtain ⟨used, answered⟩ := answered
  obtain ⟨pairs, again⟩ := verifier.visits_text_apart rfl (calls "abc" .epoch " abc") clients .empty
  obtain ⟨same, respelled⟩ := again (request "abc") (request " abc") .epoch .epoch client
    (signature "abc") "abc" " abc" clients used answered rfl respells rfl timely
  have repeated := respelled.2 ⟨⟨lapse, rfl⟩, by decide, fun _ => rfl⟩
  have run := verifier.visits_pair (some .epoch) (some .epoch) (request "abc") (request " abc")
    clients .empty
  rw [answered] at run
  obtain ⟨text, composed⟩ : ∃ text, (signature "abc").recomposed? (request "abc") = some text :=
    ⟨_, ((signature "abc").recomposed?_eq_some_iff _ _).2 ⟨_, _, rfl, rfl, rfl⟩⟩
  have accepts : Visit.AcceptsText ⟨some .epoch, request "abc", .ok (.success client _)⟩ .epoch
      client "abc" text := ⟨_, Visit.accepts_of_success rfl, rfl, composed⟩
  have repeats : Visit.AcceptsText ⟨some .epoch, request " abc",
      (verifier.verify (some .epoch) (request " abc") clients used).1⟩ .epoch client " abc" text :=
    ⟨_, Visit.accepts_of_success repeated, rfl, same.trans composed⟩
  rw [calls, run] at pairs
  have trimmed := List.pairwise_pair.1 pairs .epoch .epoch client client "abc" " abc" text accepts
    repeats rfl
  exact ⟨rfl, _, _, run, text, accepts, repeats, trimmed.1, by decide⟩

end Captured
end SignedRequest
