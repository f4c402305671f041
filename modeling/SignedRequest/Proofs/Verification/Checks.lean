import SignedRequest.Proofs.Header
import SignedRequest.Proofs.Outcome
import SignedRequest.Verification.Check

/-!
What it takes to pass the checks. Each check is told by the condition it stands for, and all eight
together by one record of these conditions, in which times are compared as integers and names up to
the case of ASCII letters.
-/

namespace SignedRequest
open Outcome

theorem Signature.lists_iff (signature : Signature) (name : HeaderName) :
    signature.lists name = true ↔ name.Occurs signature.headers :=
  HeaderName.contains_iff signature.headers name

namespace Evidence

/-- What the checks ask of a signature, given what the policy requires of its family. -/
structure Admissible (evidence : Evidence) (requirement : HeaderRequirement) : Prop where
  family : evidence.policy.requirementFor evidence.signature.algorithm = .ok requirement
  algorithm : ∀ named, evidence.signature.algorithm = some named →
    Text.asciiLower named = hs2019 ∨
      Text.asciiLower named = Text.asciiLower evidence.client.algorithm.identifier
  createdAllowed : HeaderName.created.Occurs evidence.signature.headers →
    ¬HeaderName.created.Occurs requirement.forbidden
  expiresAllowed : HeaderName.expires.Occurs evidence.signature.headers →
    ¬HeaderName.expires.Occurs requirement.forbidden
  target : HeaderName.requestTarget.Occurs evidence.signature.headers
  required : ∀ name ∈ requirement.required, name.Occurs evidence.signature.headers
  /-- A listed name that is not in parentheses is that of a header of the request. -/
  present : ∀ name ∈ evidence.signature.headers,
    (¬∃ inner, name.text = "(" ++ inner ++ ")") → evidence.request.fieldTexts name.text ≠ []
  digest : HeaderName.digest.Occurs evidence.signature.headers →
    ∃ value, evidence.request.firstFieldText? "digest" = some value ∧
      matchesDigest value (evidence.request.body.getD []) = true
  /-- Both times are told and lie around the present, and the signature belongs to the text that
  is composed with them. -/
  signed : ∃ created expires octets,
    evidence.signature.created = some created ∧ evidence.signature.expires = some expires ∧
      created.nanos ≤ evidence.now.nanos + evidence.clockSkew.nanos ∧
      evidence.now.nanos ≤ expires.nanos + evidence.clockSkew.nanos ∧
      Base64.decode? evidence.signature.string = some octets ∧
      evidence.client.algorithm.verify
        (Bytes.ofText (SigningString.compose evidence.request evidence.signature.headers created
          (expires.since created) evidence.signature.nonce)) octets = .ok true

theorem Admissible.of_request {evidence : Evidence} {requirement : HeaderRequirement}
    (admissible : evidence.Admissible requirement) {other : Request}
    (present : ∀ name ∈ evidence.signature.headers,
      evidence.request.fieldTexts name.text ≠ [] → other.fieldTexts name.text ≠ [])
    (digest : other.firstFieldText? "digest" = evidence.request.firstFieldText? "digest")
    (body : other.body = evidence.request.body)
    (verified : ∀ created expires octets, evidence.signature.created = some created →
      evidence.signature.expires = some expires →
      Base64.decode? evidence.signature.string = some octets →
      evidence.client.algorithm.verify
        (Bytes.ofText ({ evidence with request := other }.signingString created expires)) octets =
          .ok true) :
    { evidence with request := other }.Admissible requirement where
  family := admissible.family
  algorithm := admissible.algorithm
  createdAllowed := admissible.createdAllowed
  expiresAllowed := admissible.expiresAllowed
  target := admissible.target
  required := admissible.required
  present := fun name listed header => present name listed (admissible.present name listed header)
  digest := fun listed => by
    obtain ⟨value, first, matching⟩ := admissible.digest listed
    exact ⟨value, digest.trans first, by rwa [body]⟩
  signed := by
    obtain ⟨created, expires, octets, begun, ended, early, late, decoded, -⟩ := admissible.signed
    exact ⟨created, expires, octets, begun, ended, early, late, decoded,
      verified created expires octets begun ended decoded⟩

variable (evidence : Evidence) (requirement : HeaderRequirement)

theorem requirement_eq_ok_iff :
    evidence.requirement = .ok requirement ↔
      evidence.policy.requirementFor evidence.signature.algorithm = .ok requirement :=
  mapError_eq_ok_iff _ _ _

theorem checkAlgorithm_eq_ok_iff (family : evidence.requirement = .ok requirement) :
    evidence.checkAlgorithm = .ok () ↔
      ∀ named, evidence.signature.algorithm = some named →
        Text.asciiLower named = hs2019 ∨
          Text.asciiLower named = Text.asciiLower evidence.client.algorithm.identifier := by
  have lowered : Text.asciiLower hs2019 = hs2019 := by decide
  unfold checkAlgorithm
  cases evidence.signature.algorithm with
  | none => simp
  | some named =>
    simp only [family, Text.sameAscii_iff, lowered, Option.some.injEq, forall_eq']
    by_cases token : Text.asciiLower named = hs2019
    · simp [token]
    · simp [token, bind, Except.bind]

theorem checkAllowed_eq_ok_iff (family : evidence.requirement = .ok requirement)
    (name : HeaderName) :
    evidence.checkAllowed name = .ok () ↔
      (name.Occurs evidence.signature.headers → ¬name.Occurs requirement.forbidden) := by
  rw [← Signature.lists_iff, ← HeaderName.contains_iff requirement.forbidden]
  unfold checkAllowed
  by_cases listed : evidence.signature.lists name = true
  · simp [listed, family, bind, Except.bind]
  · simp [listed]

theorem checkHeaders_eq_ok_iff :
    evidence.checkHeaders = .ok () ↔
      ∃ requirement, evidence.requirement = .ok requirement ∧
        HeaderName.requestTarget.Occurs evidence.signature.headers ∧
        (∀ name ∈ requirement.required, name.Occurs evidence.signature.headers) ∧
        ∀ name ∈ evidence.signature.headers,
          (¬∃ inner, name.text = "(" ++ inner ++ ")") →
            evidence.request.fieldTexts name.text ≠ [] := by
  simp only [← Signature.lists_iff, ← HeaderName.isPseudo_iff, ← Request.hasField_iff]
  unfold checkHeaders
  by_cases target : evidence.signature.lists .requestTarget = true
  · cases evidence.requirement with
    | error error => simp [target, bind, Except.bind]
    | ok requirement =>
      simp only [target, bind, Except.bind, Bool.not_true, Bool.false_eq_true, ↓reduceIte,
        Except.ok.injEq, exists_eq_left', true_and]
      cases missing : requirement.required.find? fun name => !evidence.signature.lists name with
      | some name => grind
      | none =>
        cases absent : evidence.signature.headers.find? fun name =>
            !name.isPseudo && !evidence.request.hasField name.text with
        | some name => grind
        | none => grind
  · simp [target, bind, Except.bind]

theorem checkCreation_eq_ok_iff (created : Instant)
    (told : evidence.signature.created = some created) :
    evidence.checkCreation = .ok () ↔
      created.nanos ≤ evidence.now.nanos + evidence.clockSkew.nanos := by
  rw [← Instant.nanosSince_le_iff]
  simp [checkCreation, told]

theorem checkExpiration_eq_ok_iff (expires : Instant)
    (told : evidence.signature.expires = some expires) :
    evidence.checkExpiration = .ok () ↔
      evidence.now.nanos ≤ expires.nanos + evidence.clockSkew.nanos := by
  rw [← Instant.nanosSince_le_iff]
  simp [checkExpiration, told]

theorem checkDigest_eq_ok_iff :
    evidence.checkDigest = .ok () ↔
      (HeaderName.digest.Occurs evidence.signature.headers →
        ∃ value, evidence.request.firstFieldText? "digest" = some value ∧
          matchesDigest value (evidence.request.body.getD []) = true) := by
  rw [← Signature.lists_iff]
  unfold checkDigest
  by_cases listed : evidence.signature.lists .digest = true
  · simp only [listed, ↓reduceIte, forall_const]
    have named : HeaderName.digest.text = "digest" := rfl
    rw [named]
    cases evidence.request.firstFieldText? "digest" with
    | none => simp
    | some value => simp
  · simp [listed]

theorem accepts_iff (text : String) :
    evidence.accepts text = true ↔
      ∃ octets, Base64.decode? evidence.signature.string = some octets ∧
        evidence.client.algorithm.verify (Bytes.ofText text) octets = .ok true := by
  unfold accepts
  cases Base64.decode? evidence.signature.string with
  | none => simp
  | some octets =>
    cases answer : evidence.client.algorithm.verify (Bytes.ofText text) octets with
    | error error => simp [answer]
    | ok accepted => simp [answer]

theorem checkSignature_eq_ok_iff :
    evidence.checkSignature = .ok () ↔
      ∃ created expires octets,
        evidence.signature.created = some created ∧ evidence.signature.expires = some expires ∧
          Base64.decode? evidence.signature.string = some octets ∧
          evidence.client.algorithm.verify
            (Bytes.ofText (evidence.signingString created expires)) octets = .ok true := by
  unfold checkSignature
  cases evidence.signature.created with
  | none => simp
  | some created =>
    cases evidence.signature.expires with
    | none => simp
    | some expires => simp [accepts_iff]

end Evidence

theorem Check.runAll_eq_ok_iff (evidence : Evidence) (checks : List Check) :
    Check.runAll evidence checks = .ok () ↔ ∀ check ∈ checks, check.run evidence = .ok () := by
  induction checks with
  | nil => simp [runAll]
  | cons check rest ih =>
    rw [runAll, bind_eq_ok_iff, List.forall_mem_cons, ih]
    exact ⟨fun ⟨(), passed⟩ => passed, fun passed => ⟨(), passed⟩⟩

theorem Check.runAll_congr {evidence other : Evidence} {checks : List Check}
    (alike : ∀ check ∈ checks, check.run evidence = check.run other) :
    runAll evidence checks = runAll other checks := by
  induction checks with
  | nil => rfl
  | cons check rest ih =>
    rw [List.forall_mem_cons] at alike
    rw [runAll, runAll, alike.1, ih alike.2]

/-- The checks pass exactly if the policy has an entry for the family and all that is asked is
met. -/
theorem Evidence.check_eq_ok_iff (evidence : Evidence) :
    evidence.check = .ok () ↔ ∃ requirement, evidence.Admissible requirement := by
  simp only [check, Check.runAll_eq_ok_iff, Check.all, List.forall_mem_cons, List.not_mem_nil,
    false_implies, implies_true, and_true, Check.run]
  constructor
  · intro found
    obtain ⟨algorithm, created, expires, headers, creation, expiration, digest, signature⟩ := found
    obtain ⟨requirement, family, target, required, present⟩ :=
      evidence.checkHeaders_eq_ok_iff.1 headers
    obtain ⟨start, stop, octets, startTold, stopTold, decoded, verified⟩ :=
      evidence.checkSignature_eq_ok_iff.1 signature
    refine ⟨requirement, ?_⟩
    exact
      { family := (evidence.requirement_eq_ok_iff requirement).1 family
        algorithm := (evidence.checkAlgorithm_eq_ok_iff requirement family).1 algorithm
        createdAllowed := (evidence.checkAllowed_eq_ok_iff requirement family _).1 created
        expiresAllowed := (evidence.checkAllowed_eq_ok_iff requirement family _).1 expires
        target
        required
        present
        digest := evidence.checkDigest_eq_ok_iff.1 digest
        signed := ⟨start, stop, octets, startTold, stopTold,
          (evidence.checkCreation_eq_ok_iff start startTold).1 creation,
          (evidence.checkExpiration_eq_ok_iff stop stopTold).1 expiration, decoded, verified⟩ }
  · intro found
    obtain ⟨requirement, admissible⟩ := found
    have family := (evidence.requirement_eq_ok_iff requirement).2 admissible.family
    obtain ⟨start, stop, octets, startTold, stopTold, begun, lasting, decoded, verified⟩ :=
      admissible.signed
    exact ⟨(evidence.checkAlgorithm_eq_ok_iff requirement family).2 admissible.algorithm,
      (evidence.checkAllowed_eq_ok_iff requirement family _).2 admissible.createdAllowed,
      (evidence.checkAllowed_eq_ok_iff requirement family _).2 admissible.expiresAllowed,
      evidence.checkHeaders_eq_ok_iff.2 ⟨requirement, family, admissible.target,
        admissible.required, admissible.present⟩,
      (evidence.checkCreation_eq_ok_iff start startTold).2 begun,
      (evidence.checkExpiration_eq_ok_iff stop stopTold).2 lasting,
      evidence.checkDigest_eq_ok_iff.2 admissible.digest,
      evidence.checkSignature_eq_ok_iff.2
        ⟨start, stop, octets, startTold, stopTold, decoded, verified⟩⟩

end SignedRequest
