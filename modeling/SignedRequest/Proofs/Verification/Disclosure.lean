import SignedRequest.Proofs.Verification.ClientStore
import SignedRequest.Proofs.Verification.Replay

/-!
What a refusal tells of who is registered. The text for an unknown client is that of no other cause,
and nothing that is checked once the client is found ends with it: from the answer to a complete
signature anybody learns whether its key identifier is registered.
-/

namespace SignedRequest
open Outcome

theorem head?_toList_append {first : String} {letter : Char}
    (begins : first.toList.head? = some letter) (rest : String) :
    (first ++ rest).toList.head? = some letter := by
  rw [String.toList_append, List.head?_append, begins]
  rfl

theorem VerificationError.head?_message {error : VerificationError}
    (other : error ≠ .unknownClient) : error.message.toList.head? = some 'T' := by
  cases error with
  | unknownClient => exact absurd rfl other
  | headerNotAllowed | missingHeader | missingTimestamp | unsupportedAlgorithm =>
    exact head?_toList_append (head?_toList_append (by decide) _) _
  | algorithmMismatch | createdInFuture | digestMismatch | expired | invalidSignature
  | replayedNonce | signatureMismatch => decide

theorem VerificationError.message_eq_unknownClient_iff (error : VerificationError) :
    error.message = unknownClient.message ↔ error = .unknownClient := by
  constructor
  · intro same
    by_contra other
    have letter := head?_message other
    rw [same] at letter
    exact absurd letter (by decide)
  · rintro rfl
    rfl

namespace Evidence

variable (evidence : Evidence)

/-- The algorithm of the client does not take the signature for one of the text that is composed
with the times it claims. -/
def Rejects : Prop :=
  ∀ created expires, evidence.signature.created = some created →
    evidence.signature.expires = some expires →
      evidence.accepts (evidence.signingString created expires) = false

theorem check_ne_ok_of_rejects {evidence : Evidence} (rejects : evidence.Rejects) :
    evidence.check ≠ .ok () := by
  intro passed
  obtain ⟨_, admissible⟩ := evidence.check_eq_ok_iff.1 passed
  obtain ⟨created, expires, octets, begun, lasting, -, -, decoded, verified⟩ := admissible.signed
  have accepted := (evidence.accepts_iff (evidence.signingString created expires)).2
    ⟨octets, decoded, verified⟩
  simp [rejects created expires begun lasting] at accepted

theorem requirement_ne_unknownClient : evidence.requirement ≠ .error .unknownClient := by
  unfold requirement
  cases entry : evidence.policy.requirementFor evidence.signature.algorithm with
  | error error => simp [entry, Except.mapError]
  | ok requirement => simp [entry, Except.mapError]

theorem checkAlgorithm_ne_unknownClient : evidence.checkAlgorithm ≠ .error .unknownClient := by
  unfold checkAlgorithm
  split
  · simp
  · split
    · simp
    · refine bind_ne_error evidence.requirement_ne_unknownClient fun _ => ?_
      split
      · simp
      · simp

theorem checkAllowed_ne_unknownClient (name : HeaderName) :
    evidence.checkAllowed name ≠ .error .unknownClient := by
  unfold checkAllowed
  split
  · refine bind_ne_error evidence.requirement_ne_unknownClient fun requirement => ?_
    split
    · simp
    · simp
  · simp

theorem checkHeaders_ne_unknownClient : evidence.checkHeaders ≠ .error .unknownClient := by
  unfold checkHeaders
  dsimp only
  split
  · simp [bind, Except.bind]
  · refine bind_ne_error evidence.requirement_ne_unknownClient fun requirement => ?_
    split
    · simp
    · split
      · simp
      · simp

end Evidence

theorem Check.run_ne_unknownClient (check : Check) (evidence : Evidence) :
    check.run evidence ≠ .error .unknownClient := by
  cases check with
  | algorithm => exact evidence.checkAlgorithm_ne_unknownClient
  | createdAllowed => exact evidence.checkAllowed_ne_unknownClient .created
  | expiresAllowed => exact evidence.checkAllowed_ne_unknownClient .expires
  | headers => exact evidence.checkHeaders_ne_unknownClient
  | creation =>
    unfold run Evidence.checkCreation
    grind
  | expiration =>
    unfold run Evidence.checkExpiration
    grind
  | digest =>
    unfold run Evidence.checkDigest
    grind
  | signature =>
    unfold run Evidence.checkSignature
    grind

theorem Check.runAll_ne_unknownClient (evidence : Evidence) (checks : List Check) :
    runAll evidence checks ≠ .error .unknownClient := by
  induction checks with
  | nil => simp [runAll]
  | cons check rest ih => exact bind_ne_error (check.run_ne_unknownClient evidence) fun _ => ih

namespace RequestVerifier

/-- The text that a sender is told when its request is refused. -/
def reported? : Except Error VerificationOutcome → Option String
  | .ok (.failure error _ _) => some error.message
  | _ => none

section

variable {σ ν : Type} (verifier : RequestVerifier σ ν)

theorem accept_reported (signature : Signature) (client : Client) (now : Instant) (nonces : ν) :
    reported? (verifier.accept signature client now nonces).1 ≠
      some VerificationError.unknownClient.message := by
  have replayed : VerificationError.replayedNonce.message ≠
      VerificationError.unknownClient.message := by decide
  unfold accept
  split
  · simp [reported?]
  · split
    · simp [reported?]
    · split
      · simp [reported?]
      · simp [reported?]
      · simpa [reported?] using replayed

theorem judge_reported (reading : Option Instant) (request : Request) (signature : Signature)
    (client : Client) (nonces : ν) :
    reported? (verifier.judge reading request signature client nonces).1 ≠
      some VerificationError.unknownClient.message := by
  unfold judge
  cases reading with
  | none => simp [reported?]
  | some now =>
    dsimp only
    cases checked : (verifier.evidence request signature client now).check with
    | ok _ => exact verifier.accept_reported signature client now nonces
    | error error =>
      intro same
      obtain rfl := error.message_eq_unknownClient_iff.1 (Option.some.inj same)
      exact Check.runAll_ne_unknownClient _ _ checked

theorem judge_of_rejects {request : Request} {signature : Signature} {client : Client}
    {now : Instant} (rejects : (verifier.evidence request signature client now).Rejects)
    (nonces : ν) :
    ∃ error, (verifier.judge (some now) request signature client nonces).1 =
      .ok (.failure error (some client) (some signature)) := by
  unfold judge
  dsimp only
  cases checked : (verifier.evidence request signature client now).check with
  | ok _ => exact absurd checked (Evidence.check_ne_ok_of_rejects rejects)
  | error error => exact ⟨error, rfl⟩

theorem verify_of_incomplete {request : Request} {signature : Signature}
    (received : received? verifier.options request = some signature)
    (incomplete : signature.validate ≠ .ok ()) (reading : Option Instant) (clients : σ)
    (nonces : ν) :
    (verifier.verify reading request clients nonces).1 =
      .ok (.failure .invalidSignature none (some signature)) := by
  unfold verify
  cases valid : signature.validate with
  | ok _ => exact absurd valid incomplete
  | error error => simp [received, valid]

end

variable {ν : Type} {verifier : RequestVerifier ClientTable ν} {request : Request}
  {signature : Signature} (inMemory : verifier.clients = .inMemory)
  (received : received? verifier.options request = some signature)
include inMemory received

section

variable (complete : signature.validate = .ok ()) {clients : ClientTable}
include complete

theorem verify_of_unregistered (missing : clients.clients.get? signature.keyId = none)
    (reading : Option Instant) (nonces : ν) :
    (verifier.verify reading request clients nonces).1 =
      .ok (.failure .unknownClient none (some signature)) := by
  have set := Signature.isUnset_of_complete complete
  have unanswered : clients.get signature.keyId = .error (.verification .unknownClient) := by
    simp [ClientTable.get, set, missing]
  simp [verify, received, complete, inMemory, ClientStore.inMemory, unanswered]

theorem identified_of_registered {client : Client}
    (registered : clients.clients.get? signature.keyId = some client) (reading : Option Instant) :
    verifier.Identified reading request clients signature client where
  received
  valid := complete
  known := by
    rw [inMemory]
    exact (clients.get_eq_ok_iff _ _).2 ⟨Signature.isUnset_of_complete complete, registered⟩

theorem reported_unknownClient_iff (reading : Option Instant) (nonces : ν) :
    reported? (verifier.verify reading request clients nonces).1 =
        some VerificationError.unknownClient.message ↔
      clients.clients.get? signature.keyId = none := by
  cases found : clients.clients.get? signature.keyId with
  | none =>
    rw [verify_of_unregistered inMemory received complete found]
    simp [reported?]
  | some client =>
    rw [verify_of_identified verifier
      (identified_of_registered inMemory received complete found reading)]
    simpa using verifier.judge_reported reading request signature client nonces

end

/-- Of a complete signature, the text for an unknown client is told exactly if its key identifier is
not registered. So the answers to a request differ between a store without a client and the same
store with one whose algorithm rejects the signature, unless the signature is incomplete. -/
theorem verify_tells_registered :
    (signature.validate = .ok () → ∀ reading (clients : ClientTable) nonces,
      (reported? (verifier.verify reading request clients nonces).1 =
          some VerificationError.unknownClient.message ↔
        clients.clients.get? signature.keyId = none)) ∧
    ∀ (now : Instant) (without registered : ClientTable) (client : Client) (nonces : ν),
      without.clients.get? signature.keyId = none →
      without.clients.Puts signature.keyId client registered.clients →
      ({ request
         signature
         client
         policy := verifier.policy
         now
         clockSkew := client.clockSkew.getD verifier.options.clockSkew } : Evidence).Rejects →
        ∃ first second,
          reported? (verifier.verify (some now) request without nonces).1 = some first ∧
          reported? (verifier.verify (some now) request registered nonces).1 = some second ∧
          (first = second ↔ signature.validate ≠ .ok ()) := by
  constructor
  · intro complete reading clients nonces
    exact reported_unknownClient_iff inMemory received complete reading nonces
  · intro now without registered client nonces missing added rejects
    -- An incomplete signature is refused before anybody is looked up.
    by_cases complete : signature.validate = .ok ()
    · have known := identified_of_registered inMemory received complete added.entry (some now)
      obtain ⟨error, judged⟩ := verifier.judge_of_rejects rejects nonces
      have told := verifier.judge_reported (some now) request signature client nonces
      rw [judged] at told
      rw [verify_of_unregistered inMemory received complete missing,
        verify_of_identified verifier known, judged]
      refine ⟨_, _, rfl, rfl, ?_⟩
      constructor
      · intro same
        exact absurd (congrArg some same.symm) told
      · intro incomplete
        exact absurd complete incomplete
    · rw [verify_of_incomplete verifier received complete,
        verify_of_incomplete verifier received complete]
      exact ⟨_, _, rfl, rfl, fun _ => complete, fun _ => rfl⟩

end RequestVerifier

namespace Captured
open RequestVerifier

def namesake : Client :=
  { client with algorithm := CustomAlgorithm.ofFunction "hmac" .sha256 fun _ _ => .ok [1] }

def namesakes : ClientTable := ⟨.put .empty client.keyId namesake⟩

/-- Whoever presents the captured request learns whether its key identifier is registered. -/
theorem registration_told :
    verifier.clients = .inMemory ∧
      received? verifier.options (request "abc") = some (signature "abc") ∧
      (signature "abc").validate = .ok () ∧
      Table.empty.Puts client.keyId namesake namesakes.clients ∧
      (verifier.evidence (request "abc") (signature "abc") namesake .epoch).Rejects ∧
      ∃ first second,
        reported? (verifier.verify (some .epoch) (request "abc") .empty .empty).1 = some first ∧
        reported? (verifier.verify (some .epoch) (request "abc") namesakes .empty).1 =
          some second ∧ first ≠ second := by
  have received : received? verifier.options (request "abc") = some (signature "abc") :=
    received_of_isSignature (by decide +kernel)
  have complete : (signature "abc").validate = .ok () :=
    (signature "abc").validate_eq_ok_iff.2 ⟨by decide, by decide⟩
  have added : Table.empty.Puts client.keyId namesake namesakes.clients := Table.puts_put ..
  have rejects : (verifier.evidence (request "abc") (signature "abc") namesake .epoch).Rejects := by
    intro created expires begun lasting
    cases begun
    cases lasting
    decide +kernel
  obtain ⟨first, second, unknown, known, same⟩ :=
    (verify_tells_registered rfl received).2 .epoch .empty namesakes namesake .empty rfl added
      rejects
  exact ⟨rfl, received, complete, added, rejects, first, second, unknown, known,
    fun equal => same.1 equal complete⟩

end Captured
end SignedRequest
