import Mathlib.Data.List.Find
import SignedRequest.Proofs.SigningString
import SignedRequest.Proofs.Verification.Checks
import SignedRequest.Proofs.Verification.Replay
import SignedRequest.Verification.Verifier

/-!
What of a request a verification looks at. Apart from its first authorization header, that is what
the signature in it covers: the method, the path and query, the headers that are listed, and the body
if the digest is listed. Two requests that agree on this cannot be told apart by verifying them,
whether they are accepted or not.
-/

namespace SignedRequest

/-- Two requests agree on what a signature covers. A body that is absent counts as an empty one. -/
structure Signature.CoversAlike (signature : Signature) (request other : Request) : Prop extends
    SigningString.Agrees request other signature.headers where
  body : HeaderName.digest.Occurs signature.headers → request.body.getD [] = other.body.getD []

namespace Evidence

variable (evidence : Evidence) {other : Request}
  (covered : evidence.signature.CoversAlike evidence.request other)
include covered

theorem checkHeaders_covered :
    { evidence with request := other }.checkHeaders = evidence.checkHeaders := by
  have missing : (evidence.signature.headers.find? fun name =>
      !name.isPseudo && !other.hasField name.text) =
        evidence.signature.headers.find? fun name =>
          !name.isPseudo && !evidence.request.hasField name.text := by
    apply List.find?_congr
    intro name member
    rw [Request.hasField_eq, Request.hasField_eq, covered.values name member]
  simp only [checkHeaders, missing]
  rfl

theorem checkDigest_covered :
    { evidence with request := other }.checkDigest = evidence.checkDigest := by
  unfold checkDigest
  by_cases listed : evidence.signature.lists .digest = true
  · have occurs := (evidence.signature.lists_iff .digest).1 listed
    have value : other.firstFieldText? HeaderName.digest.text =
        evidence.request.firstFieldText? HeaderName.digest.text :=
      congrArg List.head? (covered.fieldTexts_eq occurs).symm
    simp only [if_pos listed, value, covered.body occurs]
  · simp only [if_neg listed]

theorem checkSignature_covered :
    { evidence with request := other }.checkSignature = evidence.checkSignature := by
  have text (created expires : Instant) :
      { evidence with request := other }.signingString created expires =
        evidence.signingString created expires :=
    (SigningString.compose_congr created _ covered.toAgrees _).symm
  simp only [checkSignature, text]
  rfl

theorem run_covered (check : Check) :
    check.run { evidence with request := other } = check.run evidence := by
  cases check with
  | algorithm | createdAllowed | expiresAllowed | creation | expiration => rfl
  | headers => exact evidence.checkHeaders_covered covered
  | digest => exact evidence.checkDigest_covered covered
  | signature => exact evidence.checkSignature_covered covered

end Evidence

namespace RequestVerifier

variable {σ ν : Type} (verifier : RequestVerifier σ ν) {request other : Request}

theorem judge_covered {signature : Signature} (covered : signature.CoversAlike request other)
    (reading : Option Instant) (client : Client) (nonces : ν) :
    verifier.judge reading request signature client nonces =
      verifier.judge reading other signature client nonces := by
  cases reading with
  | none => rfl
  | some now =>
    have same : (verifier.evidence other signature client now).check =
        (verifier.evidence request signature client now).check :=
      Check.runAll_congr fun check _ =>
        (verifier.evidence request signature client now).run_covered covered check
    simp only [judge, same]

/-- Requests with the same first authorization header that agree on what the signature in it covers
are verified alike: with the same outcome, be it a failure or an error, and the same effect on the
stores. -/
theorem verify_covered
    (authorization : request.firstFieldText? FieldName.authorization.text =
      other.firstFieldText? FieldName.authorization.text)
    (covered : ∀ signature, received? verifier.options request = some signature →
      signature.CoversAlike request other)
    (reading : Option Instant) (clients : σ) (nonces : ν) :
    verifier.verify reading request clients nonces =
      verifier.verify reading other clients nonces := by
  have read : received? verifier.options other = received? verifier.options request := by
    unfold received?
    rw [authorization]
  unfold verify
  rw [read]
  cases received : received? verifier.options request with
  | none => rfl
  | some signature => simp only [verifier.judge_covered (covered signature received)]

end RequestVerifier

theorem Captured.coversAlike {other : Request} (method : (request "abc").method = other.method)
    (target : (request "abc").target.pathAndQuery? = other.target.pathAndQuery?) :
    (signature "abc").CoversAlike (request "abc") other where
  method
  target
  values := by
    have pseudo : HeaderName.requestTarget.isPseudo = true := by decide +kernel
    intro name member
    rw [List.mem_singleton.1 member, SigningString.fieldTexts_of_isPseudo _ pseudo,
      SigningString.fieldTexts_of_isPseudo _ pseudo]
  body := fun listed => absurd listed (by decide +kernel)

namespace Forwarded
open RequestVerifier

def request : Request where
  method := (Captured.request "abc").method
  target := .absolute "https" "example.test" "/"
  fields := ⟨(Captured.request "abc").fields.lines ++
    [(⟨"via", by decide +kernel⟩, ⟨Bytes.ofText "1.1 proxy", by decide +kernel⟩)]⟩
  body := some (Bytes.ofText "{}")

theorem covered : (Captured.signature "abc").CoversAlike (Captured.request "abc") request :=
  Captured.coversAlike rfl rfl

theorem accepted_forwarded :
    ∃ used, Captured.verifier.verify (some .epoch) request Captured.clients .empty =
      (.ok (.success Captured.client (Captured.signature "abc")), Captured.clients, used) := by
  have received :
      received? Captured.verifier.options (Captured.request "abc") =
        some (Captured.signature "abc") :=
    Captured.received_of_isSignature (by decide +kernel)
  obtain ⟨used, answered⟩ := Captured.answered
  rw [Captured.verifier.verify_covered (by decide +kernel)
    (fun signature read => Option.some.inj (received.symm.trans read) ▸ covered)] at answered
  exact ⟨used, answered⟩

end Forwarded
end SignedRequest
