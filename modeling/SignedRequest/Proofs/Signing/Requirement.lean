import SignedRequest.Proofs.Signing.HeaderList
import SignedRequest.Proofs.Signing.Steps

/-!
The requirement of a policy and what is signed under it. A required name is signed if the request
has a value for it or is given one, and is left out otherwise; a forbidden one is not signed, unless
it is the digest that the settings ask for. Both keep a signature from what the policy wants.
-/

namespace SignedRequest

/-- A name has a value in a request, or signing makes one up: for a pseudo-header, the date, and the
digest of a body. -/
inductive Request.Supplies (request : Request) (name : HeaderName) : Prop where
  | pseudo (inner : String) (text : name.text = "(" ++ inner ++ ")")
  | date (same : name.key = HeaderName.date.key)
  | digest (same : name.key = HeaderName.digest.key) (body : Bytes) (carried : request.body = body)
  | header (carried : request.fieldTexts name.text ≠ [])

theorem Request.Supplies.congr {request : Request} {name other : HeaderName}
    (same : name.key = other.key) (supplied : request.Supplies name) : request.Supplies other := by
  cases supplied with
  | pseudo inner text =>
    have pseudo : other.isPseudo = true := by
      rw [← HeaderName.isPseudo_congr same]
      exact (HeaderName.isPseudo_iff name).2 ⟨inner, text⟩
    obtain ⟨inner, text⟩ := (HeaderName.isPseudo_iff other).1 pseudo
    exact .pseudo inner text
  | date date => exact .date (same.symm.trans date)
  | digest digest body carried => exact .digest (same.symm.trans digest) body carried
  | header carried =>
    refine .header ?_
    rwa [← request.fieldTexts_congr same]

namespace HeaderList

theorem isPresent_digest (request : Request) :
    isPresent request .digest = true ↔ request.Supplies .digest := by
  rw [isPresent, if_pos ((HeaderName.beq_iff _ _).2 rfl), Bool.or_eq_true, Option.isSome_iff_exists,
    Request.hasField_iff]
  constructor
  · intro present
    rcases present with ⟨body, carried⟩ | carried
    · exact .digest rfl body carried
    · exact .header carried
  · intro supplied
    cases supplied with
    | pseudo inner text =>
      have pseudo := (HeaderName.isPseudo_iff .digest).2 ⟨inner, text⟩
      exact absurd pseudo (by decide)
    | date same => exact absurd same (by decide)
    | digest same body carried => exact .inl ⟨body, carried⟩
    | header carried => exact .inr carried

theorem isPresent_iff {request : Request} {name : HeaderName} :
    isPresent request name = true ↔ request.Supplies name := by
  by_cases digest : name.key = HeaderName.digest.key
  · rw [isPresent_congr request digest, isPresent_digest]
    exact ⟨.congr digest.symm, .congr digest⟩
  · rw [isPresent, if_neg (mt (HeaderName.beq_iff _ _).1 digest), Bool.or_eq_true, Bool.or_eq_true,
      HeaderName.isPseudo_iff, HeaderName.beq_iff, Request.hasField_iff]
    constructor
    · intro present
      rcases present with (⟨inner, text⟩ | same) | carried
      · exact .pseudo inner text
      · exact .date same
      · exact .header carried
    · intro supplied
      cases supplied with
      | pseudo inner text => exact .inl (.inl ⟨inner, text⟩)
      | date same => exact .inl (.inr same)
      | digest same => exact absurd same digest
      | header carried => exact .inr carried

end HeaderList

/-- A list of signed names is as a requirement wants it. -/
structure HeaderRequirement.Kept (requirement : HeaderRequirement) (names : List HeaderName) :
    Prop where
  target : HeaderName.requestTarget.Occurs names
  required : ∀ name : HeaderName, name.Occurs requirement.required → name.Occurs names
  forbidden : ∀ name : HeaderName, name.Occurs requirement.forbidden → ¬name.Occurs names

namespace HeaderList

variable {settings : SigningSettings} {request : Request} {requirement : HeaderRequirement}

theorem required_occurs_iff {name : HeaderName} (required : name.Occurs requirement.required)
    (allowed : ¬name.Occurs requirement.forbidden) :
    name.Occurs (sanitize settings request requirement) ↔ request.Supplies name := by
  rw [occurs_sanitize_iff, isPresent_iff]
  exact ⟨And.right, fun supplied => ⟨.inl ⟨.inr required, allowed⟩, supplied⟩⟩

theorem forbidden_occurs_iff {name : HeaderName} (forbidden : name.Occurs requirement.forbidden) :
    name.Occurs (sanitize settings request requirement) ↔
      name.key = HeaderName.digest.key ∧ asksForDigest settings request = true ∧
        request.Supplies .digest := by
  rw [occurs_sanitize_iff, isPresent_iff]
  constructor
  · intro listed
    obtain ⟨⟨-, allowed⟩ | ⟨asked, same⟩, supplied⟩ := listed
    · exact absurd forbidden allowed
    · exact ⟨same.symm, asked, supplied.congr same.symm⟩
  · intro digested
    obtain ⟨same, asked, supplied⟩ := digested
    exact ⟨.inr ⟨asked, same.symm⟩, supplied.congr same.symm⟩

theorem target_occurs (allowed : ¬HeaderName.requestTarget.Occurs requirement.forbidden) :
    HeaderName.requestTarget.Occurs (sanitize settings request requirement) := by
  rw [occurs_sanitize_iff, isPresent_iff]
  exact ⟨.inl ⟨.inl (.inl rfl), allowed⟩, .pseudo "request-target" rfl⟩

theorem kept_sanitize_iff
    (disjoint : ∀ name : HeaderName, name.Occurs requirement.required →
      ¬name.Occurs requirement.forbidden)
    (target : ¬HeaderName.requestTarget.Occurs requirement.forbidden) :
    requirement.Kept (sanitize settings request requirement) ↔
      (∀ name : HeaderName, name.Occurs requirement.required → request.Supplies name) ∧
        ¬(HeaderName.digest.Occurs requirement.forbidden ∧
          asksForDigest settings request = true ∧ request.Supplies .digest) := by
  constructor
  · intro kept
    refine ⟨fun name wanted => ?_, fun digested => ?_⟩
    · exact (required_occurs_iff wanted (disjoint name wanted)).1 (kept.required name wanted)
    · obtain ⟨barred, asked, supplied⟩ := digested
      exact kept.forbidden .digest barred
        ((forbidden_occurs_iff barred).2 ⟨rfl, asked, supplied⟩)
  · intro found
    obtain ⟨supplied, undigested⟩ := found
    refine ⟨target_occurs target, fun name wanted => ?_, fun name barred listed => ?_⟩
    · exact (required_occurs_iff wanted (disjoint name wanted)).2 (supplied name wanted)
    · obtain ⟨same, asked, carried⟩ := (forbidden_occurs_iff barred).1 listed
      exact undigested ⟨(HeaderName.occurs_of_key same).1 barred, asked, carried⟩

end HeaderList

/-- What a successful sender has listed under the requirement of its policy. The request target is
always there; a required name is there if the request has a value for it; a forbidden name is there
only if it is the digest that the settings ask for. -/
theorem RequestSigner.sign_under_requirement {signer : RequestSigner}
    (unhooked : signer.hooks = none) {reading : Option Instant} {draws : Draws} {request : Request}
    {signature : Signature} {requirement : HeaderRequirement}
    (permitted : signer.policy.requirement signer.settings.policyFamily = .ok requirement)
    (disjoint : ∀ name : HeaderName, name.Occurs requirement.required →
      ¬name.Occurs requirement.forbidden)
    (target : ¬HeaderName.requestTarget.Occurs requirement.forbidden)
    (success : (signer.sign reading draws request).result = .ok signature) :
    HeaderName.requestTarget.Occurs signature.headers ∧
      (∀ name : HeaderName, name.Occurs requirement.required →
        (name.Occurs signature.headers ↔ request.Supplies name)) ∧
      (∀ name : HeaderName, name.Occurs requirement.forbidden →
        (name.Occurs signature.headers ↔
          name.key = HeaderName.digest.key ∧
            HeaderList.asksForDigest signer.settings request = true ∧
            request.Supplies .digest)) ∧
      (requirement.Kept signature.headers ↔
        (∀ name : HeaderName, name.Occurs requirement.required → request.Supplies name) ∧
          ¬(HeaderName.digest.Occurs requirement.forbidden ∧
            HeaderList.asksForDigest signer.settings request = true ∧
            request.Supplies .digest)) := by
  obtain ⟨steps, lead⟩ := exists_steps unhooked success
  have chosen : steps.requirement = requirement :=
    Except.ok.inj (lead.permitted.symm.trans permitted)
  have listed : signature.headers =
      HeaderList.sanitize signer.settings request requirement := by
    rw [lead.told, ← chosen]
    rfl
  rw [listed]
  exact ⟨HeaderList.target_occurs target,
    fun name wanted => HeaderList.required_occurs_iff wanted (disjoint name wanted),
    fun name barred => HeaderList.forbidden_occurs_iff barred,
    HeaderList.kept_sanitize_iff disjoint target⟩

namespace Digested

def appId : HeaderName := ⟨"x-app-id"⟩

def requirement : HeaderRequirement := ⟨[appId], [.digest]⟩

def signer : RequestSigner where
  settings :=
    { keyId := ⟨"client"⟩, secret := .ofText "s", algorithm := .hmac, digest := some .sha256 }
  policy := .withFamily .empty "hmac" requirement

def request : Request :=
  (Request.ofMethodAndTarget ⟨"POST", by decide +kernel⟩ (.origin "/")).setField .digest
    ⟨Bytes.ofText "SHA-256=AA==", by decide +kernel⟩

theorem requirement_not_kept :
    ∃ signature, (signer.sign (some .epoch) ⟨[], []⟩ request).result = .ok signature ∧
      signer.policy.requirement signer.settings.policyFamily = .ok requirement ∧
      ¬appId.Occurs signature.headers ∧ HeaderName.digest.Occurs signature.headers := by
  have signs : (signer.sign (some .epoch) ⟨[], []⟩ request).result.toOption.isSome = true := by
    decide +kernel
  obtain ⟨signature, told⟩ := Option.isSome_iff_exists.1 signs
  have success := (Outcome.toOption_eq_some_iff _ _).1 told
  have permitted : signer.policy.requirement signer.settings.policyFamily = .ok requirement := rfl
  have apart : ∀ name : HeaderName, name.Occurs requirement.required →
      ¬name.Occurs requirement.forbidden := by
    intro name wanted barred
    obtain ⟨other, required, same⟩ := wanted
    obtain ⟨another, forbidden, alike⟩ := barred
    rw [List.mem_singleton.1 required] at same
    rw [List.mem_singleton.1 forbidden, ← same] at alike
    exact absurd alike (by decide)
  obtain ⟨-, required, forbidden, -⟩ :=
    RequestSigner.sign_under_requirement rfl permitted apart (by decide +kernel) success
  refine ⟨signature, success, permitted, ?_, ?_⟩
  · rw [required appId (HeaderName.occurs_of_mem (by simp [requirement])),
      ← HeaderList.isPresent_iff]
    decide +kernel
  · rw [forbidden .digest (HeaderName.occurs_of_mem (by simp [requirement])),
      ← HeaderList.isPresent_iff]
    exact ⟨rfl, by decide +kernel, by decide +kernel⟩

end Digested
end SignedRequest
