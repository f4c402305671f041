import SignedRequest.Proofs.Signing.Additions
import SignedRequest.Proofs.Signing.HeaderList
import SignedRequest.Proofs.Signing.Standard
import SignedRequest.Proofs.SigningString

/-!
Signing a request again at the time at which it was signed. The date and the digest are there by
now and are kept, so that the same names are signed with the same values and the signature is the
same. That is so unless the authorization header is itself among what is to be signed: it is the one
header that signing changes.
-/

namespace SignedRequest

def HeaderName.authorization : HeaderName := ⟨"authorization"⟩

theorem SigningSettings.nonce?_of_nonceless (settings : SigningSettings)
    (nonceless : settings.withNonce = false) (draws : Draws) : settings.nonce? draws = none := by
  simp [nonce?, nonceless]

namespace RequestSigner

variable (signer : RequestSigner)

def SignsAuthorization : Prop :=
  ∃ requirement, signer.policy.requirement signer.settings.policyFamily = .ok requirement ∧
    (HeaderName.authorization.Occurs signer.settings.headers ∨
      HeaderName.authorization.Occurs requirement.required) ∧
    ¬HeaderName.authorization.Occurs requirement.forbidden

/-- What the algorithm answers to a text does not depend on what is drawn. -/
def IsDeterministic : Prop :=
  ∀ algorithm, signer.registry.create signer.settings.algorithm signer.settings.hash
    signer.settings.secret.octets = .ok algorithm →
      ∀ draws other content, algorithm.sign draws content = algorithm.sign other content

/-- The algorithm gives what a signature has for the text that is composed from a request, without
a nonce. -/
def Reproduces (draws : Draws) (signature : Signature) (request : Request) : Prop :=
  ∃ time algorithm octets, signature.created = some time ∧
    signer.registry.create signer.settings.algorithm signer.settings.hash
      signer.settings.secret.octets = .ok algorithm ∧
    algorithm.sign draws (Bytes.ofText (SigningString.compose request signature.headers time
      signer.settings.expires none)) = .ok octets ∧
    Base64.encode octets = signature.string

variable {signer}

theorem signsAuthorization_iff {requirement : HeaderRequirement}
    (permitted : signer.policy.requirement signer.settings.policyFamily = .ok requirement)
    (request : Request) :
    signer.SignsAuthorization ↔ HeaderName.authorization.Occurs
      (HeaderList.candidates signer.settings request requirement) := by
  have target : HeaderName.requestTarget.key ≠ HeaderName.authorization.key := by decide
  have digest : HeaderName.digest.key ≠ HeaderName.authorization.key := by decide
  rw [HeaderList.occurs_candidates_iff]
  simp only [SignsAuthorization, permitted, Except.ok.injEq, exists_eq_left', target, digest,
    false_or, and_false, or_false]

theorem isDeterministic_of_hmac (registry : signer.registry = .standard)
    (kind : signer.settings.algorithm = .hmac) : signer.IsDeterministic := by
  intro algorithm made draws other content
  rw [registry, kind, AlgorithmRegistry.standard_create_hmac] at made
  unfold HmacAlgorithm.ofSecret at made
  split at made
  · simp at made
  · obtain rfl := Except.ok.inj made
    rfl

end RequestSigner

namespace SigningSteps

variable {steps : SigningSteps} {signer : RequestSigner} {reading : Option Instant} {draws : Draws}
  {request signed : Request} {signature : Signature}
  (lead : steps.Lead signer reading draws request signature signed)
include lead

theorem Lead.hasField_authorization : signed.hasField "authorization" = true := by
  rw [lead.left]
  exact steps.completed.hasField_setField_self .authorization steps.value

theorem Lead.method_signed : signed.method = request.method := by
  rw [lead.left]
  exact lead.completed.method

theorem Lead.body_signed : signed.body = request.body := by
  rw [lead.left]
  exact lead.completed.body

theorem Lead.hasField_completed {name : String} (carried : steps.completed.hasField name = true) :
    signed.hasField name = true := by
  rw [lead.left]
  exact Injection.carried_setField .authorization steps.value carried

theorem Lead.hasDigest_signed :
    (request.body.isSome || signed.hasField "digest") =
      (request.body.isSome || request.hasField "digest") := by
  rcases lead.added.digest with ⟨-, octets, -, carried, -⟩ | same
  · simp [carried]
  · have values : signed.fieldTexts FieldName.digest.text =
        request.fieldTexts FieldName.digest.text := by
      rw [Request.fieldTexts_text, Request.fieldTexts_text, lead.values_completed (by decide), same]
    rw [Request.hasField_eq, Request.hasField_eq, show signed.fieldTexts "digest" = _ from values]
    rfl

theorem Lead.isPresent_signed {name : HeaderName}
    (other : name.key ≠ HeaderName.authorization.key) :
    HeaderList.isPresent signed name = HeaderList.isPresent request name := by
  unfold HeaderList.isPresent
  split
  · rw [lead.body_signed]
    exact lead.hasDigest_signed
  · rename_i notDigest
    by_cases date : (name == .date) = true
    · simp [date]
    · have apart : ∀ special ∈ [FieldName.date, .digest, .authorization],
          Text.asciiLower name.text ≠ special.text := by
        rw [HeaderName.beq_iff] at notDigest date
        simpa using ⟨date, notDigest, other⟩
      have values := lead.fieldTexts_other apart
      rw [Request.hasField_eq signed, values, ← Request.hasField_eq]

theorem Lead.sanitize_signed_iff :
    HeaderList.sanitize signer.settings signed steps.requirement =
        steps.names signer.settings request ↔
      (signer.SignsAuthorization → request.hasField "authorization" = true) := by
  have present (request : Request) {name : HeaderName}
      (same : name.key = HeaderName.authorization.key) :
      HeaderList.isPresent request name = request.hasField "authorization" := by
    rw [HeaderList.isPresent_congr request same]
    rfl
  rw [RequestSigner.signsAuthorization_iff lead.permitted request, names, HeaderList.sanitize_eq,
    HeaderList.sanitize_eq, HeaderList.candidates_congr _ lead.method_signed]
  -- Only the authorization can be there to be signed now and not have been there before.
  constructor
  · rintro same ⟨name, candidate, key⟩
    have listed : name ∈ (HeaderList.candidates signer.settings request steps.requirement).filter
        (HeaderList.isPresent signed) :=
      List.mem_filter.2 ⟨candidate, (present signed key).trans lead.hasField_authorization⟩
    rw [same] at listed
    exact (present request key).symm.trans (List.mem_filter.1 listed).2
  · intro carried
    apply List.filter_congr
    intro name candidate
    by_cases key : name.key = HeaderName.authorization.key
    · rw [present signed key, present request key, lead.hasField_authorization,
        carried ⟨name, candidate, key⟩]
    · exact lead.isPresent_signed key

theorem Lead.ensure_signed :
    Injection.ensure (steps.names signer.settings request) steps.time
      (signer.settings.digest.getD .sha256) signed = .ok signed := by
  apply Injection.ensure_of_carried
  · intro listed
    exact lead.hasField_completed (lead.completed.dated listed)
  · intro listed body
    rw [lead.body_signed, ← lead.completed.body] at body
    exact lead.hasField_completed (Injection.digest_of_ensure lead.ensured listed body)

/-- What it takes that signing again gives the same signature: it signs the same names, and the
algorithm gives the same for them. It leaves the request as it is then. -/
theorem Lead.repeated {other : SigningSteps} {left : Request}
    (nonceless : signer.settings.withNonce = false) {again : Draws}
    (repeats : other.Lead signer reading again signed signature left) :
    HeaderList.sanitize signer.settings signed steps.requirement =
        steps.names signer.settings request ∧
      signer.Reproduces again signature signed ∧ left = signed := by
  have headers := lead.headers_eq
  have listed := repeats.headers_eq
  have requirement := Except.ok.inj (lead.permitted.symm.trans repeats.permitted)
  have time := Except.ok.inj (lead.begun.symm.trans repeats.begun)
  have value := Option.some.inj (lead.written.symm.trans repeats.written)
  -- The same names are listed, and of them none is missing any more.
  have unchanged : signed = other.completed := by
    have ensured := repeats.ensured
    rw [← listed, headers, ← time, lead.ensure_signed] at ensured
    exact Except.ok.inj ensured
  have same : HeaderList.sanitize signer.settings signed steps.requirement =
      steps.names signer.settings request := by
    rw [← headers, listed, names, requirement]
  have answered := repeats.answered
  rw [← listed, signer.settings.nonce?_of_nonceless nonceless, ← unchanged] at answered
  have reproduces : signer.Reproduces again signature signed :=
    ⟨other.time, other.algorithm, other.octets, by rw [repeats.told], repeats.made, answered,
      by rw [repeats.told]⟩
  refine ⟨same, reproduces, ?_⟩
  rw [repeats.left, ← unchanged, ← value, lead.left, Request.setField_setField]

theorem Lead.exists_repetition (nonceless : signer.settings.withNonce = false) {again : Draws}
    (same : HeaderList.sanitize signer.settings signed steps.requirement =
      steps.names signer.settings request)
    (reproduces : signer.Reproduces again signature signed) :
    ∃ other : SigningSteps, other.Lead signer reading again signed signature signed := by
  obtain ⟨time, algorithm, octets, created, made, answered, string⟩ := reproduces
  have unnoted := signer.settings.nonce?_of_nonceless nonceless
  have headers := lead.headers_eq
  have known := Except.ok.inj (lead.made.symm.trans made)
  have begun : steps.time = time := by
    rw [lead.told] at created
    exact Option.some.inj created
  subst known begun
  refine ⟨{ steps with completed := signed, octets }, ?_⟩
  exact
    { valid := lead.valid
      permitted := lead.permitted
      begun := lead.begun
      ensured := by
        simpa only [names, same] using lead.ensure_signed
      lasting := lead.lasting
      made := lead.made
      answered := by
        simp only [names, same, unnoted]
        rwa [headers] at answered
      told := by
        have told := lead.told
        rw [unnoted] at told
        simp only [names, same, unnoted, string]
        rw [told]
        rfl
      written := lead.written
      left := by
        rw [lead.left, Request.setField_setField] }

theorem Lead.reproduces (nonceless : signer.settings.withNonce = false)
    (deterministic : signer.IsDeterministic) (unsigned : ¬signer.SignsAuthorization)
    (again : Draws) : signer.Reproduces again signature signed := by
  have headers := lead.headers_eq
  have unlisted : ∀ name ∈ steps.names signer.settings request,
      name.key ≠ HeaderName.authorization.key := by
    intro name listed same
    exact unsigned ((RequestSigner.signsAuthorization_iff lead.permitted request).2
      ⟨name, (List.mem_filter.1 listed).1, same⟩)
  have composed : SigningString.compose signed signature.headers steps.time
      signer.settings.expires none =
        SigningString.compose steps.completed signature.headers steps.time
          signer.settings.expires none := by
    rw [lead.left, headers]
    exact SigningString.compose_congr _ _
      (SigningString.agrees_setField _ .authorization steps.value unlisted) _
  have answered := lead.answered
  refine ⟨steps.time, steps.algorithm, steps.octets, by rw [lead.told], lead.made, ?_,
    by rw [lead.told]⟩
  rw [composed, headers, deterministic _ lead.made again draws]
  rwa [signer.settings.nonce?_of_nonceless nonceless] at answered

end SigningSteps

/-- A request that was signed is signed again at the same time with the same signature exactly if
the authorization header is not to be signed, or if it was there to be signed in the first place and
the algorithm gives the same for its new value. The request keeps all its headers then. -/
theorem RequestSigner.sign_again {signer : RequestSigner} {reading : Option Instant}
    {draws : Draws} {request : Request} {signature : Signature} (unhooked : signer.hooks = none)
    (nonceless : signer.settings.withNonce = false) (deterministic : signer.IsDeterministic)
    (success : (signer.sign reading draws request).result = .ok signature) (again : Draws) :
    ((signer.sign reading again (signer.sign reading draws request).request).result =
        .ok signature ↔
      (signer.SignsAuthorization → request.hasField "authorization" = true ∧
        signer.Reproduces again signature (signer.sign reading draws request).request)) ∧
    ((signer.sign reading again (signer.sign reading draws request).request).result =
        .ok signature →
      (signer.sign reading again (signer.sign reading draws request).request).request =
        (signer.sign reading draws request).request) := by
  obtain ⟨steps, lead⟩ := exists_steps unhooked success
  have valid := validate_of_success unhooked success
  generalize (signer.sign reading draws request).request = signed at lead ⊢
  refine ⟨⟨?_, ?_⟩, ?_⟩
  · intro repeated signs
    obtain ⟨_, repeats⟩ := exists_steps unhooked repeated
    obtain ⟨same, reproduces, -⟩ := lead.repeated nonceless repeats
    exact ⟨lead.sanitize_signed_iff.1 same signs, reproduces⟩
  · intro held
    have same := lead.sanitize_signed_iff.2 fun signs => (held signs).1
    have reproduces : signer.Reproduces again signature signed := by
      by_cases signs : signer.SignsAuthorization
      · exact (held signs).2
      · exact lead.reproduces nonceless deterministic signs again
    obtain ⟨_, repeats⟩ := lead.exists_repetition nonceless same reproduces
    rw [sign_of_lead unhooked repeats valid]
  · intro repeated
    obtain ⟨_, repeats⟩ := exists_steps unhooked repeated
    exact (lead.repeated nonceless repeats).2.2

namespace Repeated
open RequestSigner

def signer : RequestSigner where
  settings :=
    { keyId := ⟨"a"⟩
      secret := .ofText "s"
      algorithm := .hmac
      headers := [.requestTarget, .date]
      digest := some .sha256 }

def request : Request :=
  { Request.ofMethodAndTarget ⟨"PUT", by decide +kernel⟩ (.origin "/") with
    body := some (Bytes.ofText "{}") }

def draws : Draws := ⟨[0], [0]⟩

theorem not_signsAuthorization : ¬signer.SignsAuthorization := by
  have missing : (signer.policy.requirement signer.settings.policyFamily).toOption.all
      (fun requirement => !(signer.settings.headers ++ requirement.required).contains
        .authorization) = true := by
    decide +kernel
  rintro ⟨requirement, permitted, listed, -⟩
  rw [← HeaderList.occurs_append_iff, ← HeaderName.contains_iff] at listed
  rw [(Outcome.toOption_eq_some_iff _ _).2 permitted, Option.all_some, listed] at missing
  exact absurd missing (by decide)

theorem signed_again :
    signer.hooks = none ∧ signer.settings.withNonce = false ∧ signer.IsDeterministic ∧
      ¬signer.SignsAuthorization ∧
      ∃ signature, (signer.sign (some .epoch) ⟨[], []⟩ request).result = .ok signature ∧
        (signer.sign (some .epoch) draws
          (signer.sign (some .epoch) ⟨[], []⟩ request).request).result = .ok signature ∧
        (signer.sign (some .epoch) draws
          (signer.sign (some .epoch) ⟨[], []⟩ request).request).request =
            (signer.sign (some .epoch) ⟨[], []⟩ request).request := by
  have signs : (signer.sign (some .epoch) ⟨[], []⟩ request).result.toOption.isSome = true := by
    decide +kernel
  obtain ⟨signature, success⟩ := Outcome.exists_eq_ok signs
  have deterministic : signer.IsDeterministic := isDeterministic_of_hmac rfl rfl
  obtain ⟨same, kept⟩ := sign_again rfl rfl deterministic success draws
  have repeated := same.2 fun signs => absurd signs not_signsAuthorization
  exact ⟨rfl, rfl, deterministic, not_signsAuthorization, signature, success, repeated,
    kept repeated⟩

def covering : RequestSigner where
  settings :=
    { keyId := ⟨"a"⟩
      secret := .ofText "s"
      algorithm := .hmac
      headers := [.requestTarget, .authorization] }

def unsigned : Request := .ofMethodAndTarget .get (.origin "/")

theorem covering_signsAuthorization : covering.SignsAuthorization := by
  have allowed : (covering.policy.requirement covering.settings.policyFamily).toOption.any
      (fun requirement => !requirement.forbidden.contains .authorization) = true := by
    decide +kernel
  obtain ⟨requirement, permitted, missing⟩ := (Option.any_eq_true _ _).1 allowed
  refine ⟨requirement, (Outcome.toOption_eq_some_iff _ _).1 permitted,
    .inl (HeaderName.occurs_of_mem (by simp [covering])), ?_⟩
  rw [← HeaderName.contains_iff]
  simpa using missing

/-- The first time there is no such header to be signed, and the second time there is. -/
theorem not_signed_again :
    covering.hooks = none ∧ covering.settings.withNonce = false ∧ covering.IsDeterministic ∧
      ∃ signature, (covering.sign (some .epoch) draws unsigned).result = .ok signature ∧
        (covering.sign (some .epoch) draws
          (covering.sign (some .epoch) draws unsigned).request).result ≠ .ok signature := by
  have signs : (covering.sign (some .epoch) draws unsigned).result.toOption.isSome = true := by
    decide +kernel
  obtain ⟨signature, success⟩ := Outcome.exists_eq_ok signs
  have missing : unsigned.hasField "authorization" = false := by decide +kernel
  refine ⟨rfl, rfl, isDeterministic_of_hmac rfl rfl, signature, success, ?_⟩
  intro repeated
  obtain ⟨steps, lead⟩ := exists_steps rfl success
  obtain ⟨_, repeats⟩ := exists_steps rfl repeated
  obtain ⟨same, -⟩ := lead.repeated rfl repeats
  have carried := lead.sanitize_signed_iff.1 same covering_signsAuthorization
  simp [missing] at carried

end Repeated
end SignedRequest
