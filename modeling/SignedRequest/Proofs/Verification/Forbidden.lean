import SignedRequest.Proofs.Signing.HeaderList
import SignedRequest.Proofs.Verification.Acceptance
import SignedRequest.Proofs.Verification.NonceRuns

/-!
What a receiver makes of the names that a policy forbids. The two times that a signature claims are
not accepted where they are forbidden; of all other names it makes nothing, so that verifying under a
policy is verifying under one that forbids these times alone.
-/

namespace SignedRequest
open Outcome

def Table.mapValues {κ α β : Type} (change : α → β) (table : Table κ α) : Table κ β :=
  ⟨table.entries.map fun entry => (entry.1, change entry.2)⟩

theorem Table.get?_mapValues {κ α β : Type} [DecidableEq κ] (change : α → β) (table : Table κ α)
    (key : κ) : (table.mapValues change).get? key = (table.get? key).map change := by
  simp only [get?, mapValues, List.find?_map, Function.comp_def, Option.map_map]

def HeaderName.isTime (name : HeaderName) : Bool := name == created || name == expires

theorem HeaderName.isTime_iff (name : HeaderName) :
    name.isTime = true ↔ name.key = created.key ∨ name.key = expires.key := by
  rw [isTime, Bool.or_eq_true, beq_iff, beq_iff]

def HeaderRequirement.forbidding (kind : HeaderName → Bool) (requirement : HeaderRequirement) :
    HeaderRequirement :=
  { requirement with forbidden := requirement.forbidden.filter kind }

/-- The policy that forbids what this one does of one kind of names, and requires the same. -/
def HeaderPolicy.forbidding (kind : HeaderName → Bool) (policy : HeaderPolicy) : HeaderPolicy :=
  ⟨policy.families.mapValues (HeaderRequirement.forbidding kind)⟩

theorem HeaderPolicy.requirementFor_forbidding (kind : HeaderName → Bool) (policy : HeaderPolicy)
    (identifier : Option String) :
    (policy.forbidding kind).requirementFor identifier =
      (policy.requirementFor identifier).map (HeaderRequirement.forbidding kind) := by
  simp only [requirementFor, requirement, forbidding, Table.get?_mapValues]
  cases policy.families.get? (Text.lower (familyOf identifier)) with
  | none => rfl
  | some found => rfl

theorem HeaderRequirement.contains_forbidding_isTime (requirement : HeaderRequirement)
    {name : HeaderName} (time : name.isTime = true) :
    (requirement.forbidding HeaderName.isTime).forbidden.contains name =
      requirement.forbidden.contains name := by
  have congr (a b : HeaderName) (same : a.key = b.key) : a.isTime = b.isTime := by
    rw [Bool.eq_iff_iff, HeaderName.isTime_iff, HeaderName.isTime_iff, same]
  rw [Bool.eq_iff_iff, HeaderName.contains_iff, HeaderName.contains_iff, forbidding,
    HeaderList.occurs_filter_iff congr, time]
  simp

namespace Evidence

variable (evidence : Evidence) (kind : HeaderName → Bool)

def forbidding : Evidence := { evidence with policy := evidence.policy.forbidding kind }

theorem requirement_forbidding :
    (evidence.forbidding kind).requirement =
      evidence.requirement.map (HeaderRequirement.forbidding kind) := by
  simp only [requirement, forbidding, HeaderPolicy.requirementFor_forbidding]
  cases evidence.policy.requirementFor evidence.signature.algorithm with
  | error error => rfl
  | ok found => rfl

theorem checkAlgorithm_forbidding :
    (evidence.forbidding kind).checkAlgorithm = evidence.checkAlgorithm := by
  unfold checkAlgorithm
  rw [requirement_forbidding]
  cases evidence.requirement with
  | error error => rfl
  | ok found => rfl

theorem checkHeaders_forbidding :
    (evidence.forbidding kind).checkHeaders = evidence.checkHeaders := by
  unfold checkHeaders
  rw [requirement_forbidding]
  cases evidence.requirement with
  | error error => rfl
  | ok found => rfl

theorem checkAllowed_forbidding {name : HeaderName} (time : name.isTime = true) :
    (evidence.forbidding HeaderName.isTime).checkAllowed name = evidence.checkAllowed name := by
  unfold checkAllowed
  rw [requirement_forbidding]
  cases evidence.requirement with
  | error error => rfl
  | ok found =>
    have same := found.contains_forbidding_isTime time
    simp only [Except.map, bind, Except.bind, same]
    rfl

theorem run_forbidding (check : Check) :
    check.run (evidence.forbidding HeaderName.isTime) = check.run evidence := by
  -- Only two checks look into the list of forbidden names, and each of them for a time.
  cases check with
  | algorithm => exact evidence.checkAlgorithm_forbidding _
  | createdAllowed => exact evidence.checkAllowed_forbidding (by decide)
  | expiresAllowed => exact evidence.checkAllowed_forbidding (by decide)
  | headers => exact evidence.checkHeaders_forbidding _
  | creation | expiration | digest | signature => rfl

theorem admissible_iff_unforbidden (requirement : HeaderRequirement) :
    evidence.Admissible requirement ↔
      evidence.policy.requirementFor evidence.signature.algorithm = .ok requirement ∧
        (evidence.forbidding fun _ => false).Admissible (requirement.forbidding fun _ => false) ∧
        ∀ time : HeaderName, time.isTime = true → time.Occurs evidence.signature.headers →
          ¬time.Occurs requirement.forbidden := by
  have nothing (name : HeaderName) :
      ¬name.Occurs (requirement.forbidding fun _ => false).forbidden := by
    simp [HeaderRequirement.forbidding, HeaderName.Occurs]
  constructor
  · intro admissible
    refine ⟨admissible.family,
      { admissible with
        family := by
          have family := admissible.family
          simp only [forbidding, HeaderPolicy.requirementFor_forbidding, family]
          rfl
        createdAllowed := fun _ => nothing _
        expiresAllowed := fun _ => nothing _ }, ?_⟩
    intro time isTime listed
    rcases (HeaderName.isTime_iff time).1 isTime with created | expires
    · rw [HeaderName.occurs_of_key created] at listed ⊢
      exact admissible.createdAllowed listed
    · rw [HeaderName.occurs_of_key expires] at listed ⊢
      exact admissible.expiresAllowed listed
  · rintro ⟨family, admissible, times⟩
    exact
      { admissible with
        family
        createdAllowed := times _ (by decide)
        expiresAllowed := times _ (by decide) }

end Evidence

namespace RequestVerifier

variable {σ ν : Type} (verifier : RequestVerifier σ ν)

def forbidding (kind : HeaderName → Bool) : RequestVerifier σ ν :=
  { verifier with policy := verifier.policy.forbidding kind }

theorem judge_forbidding (reading : Option Instant) (request : Request) (signature : Signature)
    (client : Client) (nonces : ν) :
    (verifier.forbidding HeaderName.isTime).judge reading request signature client nonces =
      verifier.judge reading request signature client nonces := by
  cases reading with
  | none => rfl
  | some now =>
    have same :
        ((verifier.forbidding HeaderName.isTime).evidence request signature client now).check =
          (verifier.evidence request signature client now).check :=
      Check.runAll_congr fun check _ =>
        (verifier.evidence request signature client now).run_forbidding check
    simp only [judge, same]
    rfl

theorem accepted_iff_unforbidden (now : Instant) (request : Request) (clients : σ) (nonces : ν)
    (client : Client) (signature : Signature) :
    verifier.Accepted now request clients nonces client signature ↔
      (verifier.forbidding fun _ => false).Accepted now request clients nonces client signature ∧
        ∃ requirement, verifier.policy.requirementFor signature.algorithm = .ok requirement ∧
          ∀ time : HeaderName, time.isTime = true → time.Occurs signature.headers →
            ¬time.Occurs requirement.forbidden := by
  let evidence := verifier.evidence request signature client now
  constructor
  · intro accepted
    obtain ⟨requirement, admissible⟩ := accepted.admissible
    obtain ⟨family, others, times⟩ := (evidence.admissible_iff_unforbidden requirement).1 admissible
    exact ⟨{ accepted with admissible := ⟨_, others⟩ }, requirement, family, times⟩
  · rintro ⟨accepted, requirement, family, times⟩
    obtain ⟨found, admissible⟩ := accepted.admissible
    refine { accepted with admissible := ⟨requirement, ?_⟩ }
    refine (evidence.admissible_iff_unforbidden requirement).2 ⟨family, ?_, times⟩
    -- The policy has one requirement for the family, with or without forbidden names.
    have same : found = requirement.forbidding fun _ => false := by
      have known := admissible.family
      change (verifier.policy.forbidding fun _ => false).requirementFor signature.algorithm = _
        at known
      rw [HeaderPolicy.requirementFor_forbidding, family] at known
      exact (Except.ok.inj known).symm
    exact same ▸ admissible

/-- A request is accepted under a policy exactly if it is accepted under the policy that requires the
same and forbids nothing, and lists no time that the policy forbids. In all that a receiver answers
and keeps, a policy is the same as one that forbids the two times alone. -/
theorem verify_forbidden :
    (∀ (reading : Option Instant) (request : Request) (clients : σ) (nonces : ν) (client : Client)
      (signature : Signature),
        (verifier.verify reading request clients nonces).1 = .ok (.success client signature) ↔
          ((verifier.forbidding fun _ => false).verify reading request clients nonces).1 =
              .ok (.success client signature) ∧
            ∃ requirement, verifier.policy.requirementFor signature.algorithm = .ok requirement ∧
              ∀ time : HeaderName, time.isTime = true → time.Occurs signature.headers →
                ¬time.Occurs requirement.forbidden) ∧
    ∀ (reading : Option Instant) (request : Request) (clients : σ) (nonces : ν),
      (verifier.forbidding HeaderName.isTime).verify reading request clients nonces =
        verifier.verify reading request clients nonces := by
  constructor
  · intro reading request clients nonces client signature
    constructor
    · intro success
      obtain ⟨now, rfl, accepted⟩ := verifier.accepted_of_verify success
      obtain ⟨others, times⟩ := (verifier.accepted_iff_unforbidden _ _ _ _ _ _).1 accepted
      exact ⟨verify_of_accepted _ others, times⟩
    · rintro ⟨success, times⟩
      obtain ⟨now, rfl, accepted⟩ := accepted_of_verify _ success
      exact verifier.verify_of_accepted
        ((verifier.accepted_iff_unforbidden _ _ _ _ _ _).2 ⟨accepted, times⟩)
  · intro reading request clients nonces
    unfold verify
    simp only [judge_forbidding]
    rfl

end RequestVerifier

namespace Barred

def name : HeaderName := ⟨"X-App-Id"⟩

def requirement : HeaderRequirement := ⟨[.requestTarget], [.created, name]⟩

def verifier : RequestVerifier ClientTable NonceTable :=
  { Captured.verifier with policy := .withFamily .empty hs2019 requirement }

def request : Request :=
  { Captured.request "" with
    fields := ⟨((FieldValue.ofText? ("Signature keyId=\"a\",created=0,expires=300," ++
        "headers=\"(request-target) x-app-id\",signature=\"AA==\"")).map
          (Prod.mk .authorization)).toList ++
      [(⟨"x-app-id", by decide +kernel⟩, ⟨Bytes.ofText "1", by decide +kernel⟩)]⟩ }

def listsName : Except Error VerificationOutcome → Bool
  | .ok (.success _ signature) => signature.algorithm == none && signature.lists name
  | _ => false

/-- A request is accepted although it lists a header that the policy forbids. -/
theorem accepted_though_forbidden :
    ∃ client signature,
      (verifier.verify (some .epoch) request Captured.clients .empty).1 =
          .ok (.success client signature) ∧
        verifier.policy.requirementFor signature.algorithm = .ok requirement ∧
        name.Occurs signature.headers ∧ name.Occurs requirement.forbidden := by
  have accepted :
      listsName (verifier.verify (some .epoch) request Captured.clients .empty).1 = true := by
    decide +kernel
  unfold listsName at accepted
  split at accepted
  · rename_i client signature success
    simp only [Bool.and_eq_true, beq_iff_eq, Signature.lists_iff] at accepted
    obtain ⟨unnamed, listed⟩ := accepted
    refine ⟨client, signature, success, ?_, listed, HeaderName.occurs_of_mem ?_⟩
    · rw [unnamed]
      rfl
    · simp [requirement]
  · simp at accepted

end Barred
end SignedRequest
