import SignedRequest.Proofs.Encoding.Base64
import SignedRequest.Proofs.Outcome
import SignedRequest.Signing.Signer

/-!
What has happened when signing ends. Some step failed first, or all succeeded; when a request without
hooks was signed, the signature and the signed request are made of what the steps gave.
-/

namespace SignedRequest
open Outcome

structure SigningSettings.Complete (settings : SigningSettings) : Prop where
  keyId : settings.keyId.text ≠ ""
  secret : settings.secret.isBlank = false
  listed : settings.headers ≠ []
  names : ∀ name ∈ settings.headers, name.isBlank = false
  expires : settings.expires.nanos ≠ 0
  scheme : Text.isAllBlank settings.scheme = false

theorem SigningSettings.validate_eq_ok_iff (settings : SigningSettings) :
    settings.validate = .ok () ↔ settings.Complete := by
  constructor
  · intro valid
    unfold validate at valid
    repeat'
      split at valid
      · simp at valid
    rename_i keyId secret headers expires scheme
    simp only [Bool.or_eq_true, List.isEmpty_iff, List.any_eq_true, not_or, not_exists, not_and,
      Bool.not_eq_true] at headers
    exact
      { keyId := by simpa [KeyId.isUnset] using keyId
        secret := by simpa using secret
        listed := headers.1
        names := headers.2
        expires := by simpa [Duration.isZero] using expires
        scheme := by simpa using scheme }
  · intro found
    obtain ⟨keyId, secret, listed, names, expires, scheme⟩ := found
    have headers :
        (settings.headers.isEmpty || settings.headers.any HeaderName.isBlank) = false := by
      simpa using ⟨listed, names⟩
    simp [validate, KeyId.isUnset, Duration.isZero, keyId, secret, headers, expires, scheme]

/-- What the steps of signing give on the way. -/
structure SigningSteps where
  requirement : HeaderRequirement
  time : Instant
  completed : Request
  expires : Instant
  algorithm : SignatureAlgorithm
  octets : Bytes
  value : FieldValue

def SigningSteps.names (steps : SigningSteps) (settings : SigningSettings) (request : Request) :
    List HeaderName :=
  HeaderList.sanitize settings request steps.requirement

/-- The steps lead from a request to a signature and the signed request. -/
structure SigningSteps.Lead (steps : SigningSteps) (signer : RequestSigner)
    (reading : Option Instant) (draws : Draws) (request : Request) (signature : Signature)
    (signed : Request) : Prop where
  valid : signer.settings.validate = .ok ()
  permitted : signer.policy.requirement signer.settings.policyFamily = .ok steps.requirement
  begun : RequestSigner.signingTime reading = .ok steps.time
  ensured : Injection.ensure (steps.names signer.settings request) steps.time
    (signer.settings.digest.getD .sha256) request = .ok steps.completed
  lasting : steps.time.add? signer.settings.expires = some steps.expires
  made : signer.registry.create signer.settings.algorithm signer.settings.hash
    signer.settings.secret.octets = .ok steps.algorithm
  answered : steps.algorithm.sign draws (Bytes.ofText
    (SigningString.compose steps.completed (steps.names signer.settings request) steps.time
      signer.settings.expires (signer.settings.nonce? draws))) = .ok steps.octets
  told : signature =
    { keyId := signer.settings.keyId
      algorithm := some (signer.settings.algorithmParameter steps.algorithm)
      created := some steps.time
      expires := some steps.expires
      headers := steps.names signer.settings request
      string := Base64.encode steps.octets
      nonce := signer.settings.nonce? draws }
  written : FieldValue.ofText? (Authorization.headerValue signer.settings.scheme signature) =
    some steps.value
  left : signed = steps.completed.setField .authorization steps.value

section
variable {steps : SigningSteps} {signer : RequestSigner} {reading : Option Instant} {draws : Draws}
  {request signed : Request} {signature : Signature}
  (lead : steps.Lead signer reading draws request signature signed)
include lead

theorem SigningSteps.Lead.headers_eq :
    signature.headers = steps.names signer.settings request := by
  rw [lead.told]

theorem SigningSteps.Lead.solid_string :
    ∀ c ∈ signature.string.toList, Text.isBlank c = false ∧ c ≠ '"' := by
  rw [lead.told]
  exact fun c member => Base64.solid_of_mem_encode member

theorem SigningSteps.Lead.solid_nonce {text : String} (told : signature.nonce = some text) :
    ∀ c ∈ text.toList, Text.isBlank c = false ∧ c ≠ '"' := by
  rw [lead.told] at told
  unfold SigningSettings.nonce? at told
  split at told
  · obtain rfl := Option.some.inj told
    exact fun c member => Base64.solid_of_mem_encode member
  · simp at told

end

namespace RequestSigner

variable {signer : RequestSigner} {reading : Option Instant} {draws : Draws} {request : Request}
  {signature : Signature}

theorem createSignature_eq_ok_iff (settings : SigningSettings) (registry : AlgorithmRegistry)
    (time : Instant) :
    settings.createSignature registry draws time request = .ok signature ↔
      settings.validate = .ok () ∧
      ∃ expires algorithm octets, time.add? settings.expires = some expires ∧
        registry.create settings.algorithm settings.hash settings.secret.octets = .ok algorithm ∧
        algorithm.sign draws (Bytes.ofText (SigningString.compose request settings.headers time
          settings.expires (settings.nonce? draws))) = .ok octets ∧
        signature =
          { keyId := settings.keyId
            algorithm := some (settings.algorithmParameter algorithm)
            created := some time
            expires := some expires
            headers := settings.headers
            string := Base64.encode octets
            nonce := settings.nonce? draws } := by
  rw [SigningSettings.createSignature, bind_eq_ok_iff]
  simp only [mapError_eq_ok_iff]
  constructor
  · rintro ⟨_, valid, created⟩
    split at created
    · simp at created
    · rename_i expires lasting
      obtain ⟨algorithm, made, created⟩ := (bind_eq_ok_iff _ _ _).1 created
      obtain ⟨octets, signed, created⟩ := (bind_eq_ok_iff _ _ _).1 created
      exact ⟨valid, expires, algorithm, octets, lasting, made, signed,
        (Except.ok.inj created).symm⟩
  · rintro ⟨valid, expires, algorithm, octets, lasting, made, signed, rfl⟩
    refine ⟨(), valid, ?_⟩
    simp [lasting, made, signed, bind, Except.bind]

theorem createSignature_eq_ok {settings : SigningSettings} {registry : AlgorithmRegistry}
    {time : Instant}
    (created : settings.createSignature registry draws time request = .ok signature) :
    ∃ expires algorithm octets, time.add? settings.expires = some expires ∧
      registry.create settings.algorithm settings.hash settings.secret.octets = .ok algorithm ∧
      algorithm.sign draws (Bytes.ofText (SigningString.compose request settings.headers time
        settings.expires (settings.nonce? draws))) = .ok octets ∧
      signature =
        { keyId := settings.keyId
          algorithm := some (settings.algorithmParameter algorithm)
          created := some time
          expires := some expires
          headers := settings.headers
          string := Base64.encode octets
          nonce := settings.nonce? draws } :=
  ((createSignature_eq_ok_iff settings registry time).1 created).2

theorem plan_eq_ok_iff (settings planned : SigningSettings) :
    signer.plan settings request = .ok planned ↔
      settings.validate = .ok () ∧ ∃ requirement,
        signer.policy.requirement settings.policyFamily = .ok requirement ∧
        planned = { settings with headers := HeaderList.sanitize settings request requirement } := by
  rw [plan, bind_eq_ok_iff]
  simp only [bind_eq_ok_iff, mapError_eq_ok_iff]
  constructor
  · rintro ⟨_, valid, requirement, permitted, same⟩
    exact ⟨valid, requirement, permitted, (Except.ok.inj same).symm⟩
  · rintro ⟨valid, requirement, permitted, rfl⟩
    exact ⟨(), valid, requirement, permitted, rfl⟩

theorem complete_eq_ok_iff (settings : SigningSettings) (time : Instant) (completed : Request) :
    complete settings reading request = .ok (time, completed) ↔
      signingTime reading = .ok time ∧ Injection.ensure settings.headers time
        (settings.digest.getD .sha256) request = .ok completed := by
  rw [complete, bind_eq_ok_iff]
  simp only [bind_eq_ok_iff]
  constructor
  · rintro ⟨_, begun, _, ensured, same⟩
    obtain ⟨rfl, rfl⟩ := Prod.mk.inj (Except.ok.inj same)
    exact ⟨begun, ensured⟩
  · rintro ⟨begun, ensured⟩
    exact ⟨time, begun, completed, ensured, rfl⟩

theorem authorize_eq_ok_iff (settings : SigningSettings) (time : Instant) (value : FieldValue) :
    signer.authorize settings draws time request = .ok (signature, value) ↔
      settings.createSignature signer.registry draws time request = .ok signature ∧
      FieldValue.ofText? (Authorization.headerValue settings.scheme signature) = some value := by
  rw [authorize, bind_eq_ok_iff]
  constructor
  · rintro ⟨made, created, writing⟩
    split at writing
    · rename_i written
      obtain ⟨rfl, rfl⟩ := Prod.mk.inj (Except.ok.inj writing)
      exact ⟨created, written⟩
    · simp at writing
  · rintro ⟨created, written⟩
    exact ⟨signature, created, by simp [written]⟩

@[simp]
theorem finish_request (onSigned : Option SignedHook) (settings : SigningSettings) :
    (finish onSigned settings signature request).request = request := by
  cases onSigned with
  | none => rfl
  | some hook => rfl

def prepare (signer : RequestSigner) (request : Request) : Preparation :=
  match signer.hooks with
  | none => { request, settings := signer.settings, onSigned := none, failure := none }
  | some hooks => hooks.onSigning request signer.settings

def opening (signer : RequestSigner) (request : Request) : List HookCall :=
  match signer.hooks with
  | none => []
  | some _ => [.signing request signer.settings]

def signFrom (signer : RequestSigner) (reading : Option Instant) (draws : Draws)
    (prepared : Preparation) : SigningOutcome :=
  match prepared.failure with
  | some reason => ⟨.error (.hook reason), prepared.request, []⟩
  | none => signer.signPrepared prepared.settings prepared.onSigned reading draws prepared.request

theorem sign_eq_signFrom (signer : RequestSigner) (reading : Option Instant) (draws : Draws)
    (request : Request) :
    signer.sign reading draws request =
      { signer.signFrom reading draws (signer.prepare request) with
        calls := signer.opening request ++
          (signer.signFrom reading draws (signer.prepare request)).calls } := by
  cases hooked : signer.hooks with
  | none => simp [sign, signFrom, prepare, opening, hooked]
  | some hooks =>
    cases failed : (hooks.onSigning request signer.settings).failure with
    | none => simp [sign, signFrom, prepare, opening, hooked, failed]
    | some reason => simp [sign, signFrom, prepare, opening, hooked, failed]

/-- How signing ends: by the first step that fails, or when the signature was made and any second
hook has run. -/
inductive Ending (signer : RequestSigner) (reading : Option Instant) (draws : Draws)
    (prepared : Preparation) : SigningOutcome → Prop where
  | calledOff {reason : String} (failed : prepared.failure = some reason) :
      Ending signer reading draws prepared ⟨.error (.hook reason), prepared.request, []⟩
  | unplanned {error : Error} (passed : prepared.failure = none)
      (failed : signer.plan prepared.settings prepared.request = .error error) :
      Ending signer reading draws prepared ⟨.error error, prepared.request, []⟩
  | incomplete {settings : SigningSettings} {error : Error} (passed : prepared.failure = none)
      (planned : signer.plan prepared.settings prepared.request = .ok settings)
      (failed : complete settings reading prepared.request = .error error) :
      Ending signer reading draws prepared ⟨.error error, prepared.request, []⟩
  | unsigned {settings : SigningSettings} {time : Instant} {completed : Request} {error : Error}
      (passed : prepared.failure = none)
      (planned : signer.plan prepared.settings prepared.request = .ok settings)
      (completing : complete settings reading prepared.request = .ok (time, completed))
      (failed : signer.authorize settings draws time completed = .error error) :
      Ending signer reading draws prepared ⟨.error error, completed, []⟩
  | signed {settings : SigningSettings} {time : Instant} {completed : Request}
      {signature : Signature} {value : FieldValue} (passed : prepared.failure = none)
      (planned : signer.plan prepared.settings prepared.request = .ok settings)
      (completing : complete settings reading prepared.request = .ok (time, completed))
      (authorized : signer.authorize settings draws time completed = .ok (signature, value)) :
      Ending signer reading draws prepared
        (finish prepared.onSigned settings signature (completed.setField .authorization value))

theorem signFrom_ends (signer : RequestSigner) (reading : Option Instant) (draws : Draws)
    (prepared : Preparation) :
    signer.Ending reading draws prepared (signer.signFrom reading draws prepared) := by
  unfold signFrom signPrepared
  split
  · rename_i failed
    exact .calledOff failed
  · rename_i passed
    split
    · rename_i failed
      exact .unplanned passed failed
    · rename_i planned
      split
      · rename_i failed
        exact .incomplete passed planned failed
      · rename_i completing
        split
        · rename_i failed
          exact .unsigned passed planned completing failed
        · rename_i authorized
          exact .signed passed planned completing authorized

theorem sign_of_steps (unhooked : signer.hooks = none) {planned : SigningSettings} {time : Instant}
    {completed : Request} {value : FieldValue}
    (planning : signer.plan signer.settings request = .ok planned)
    (completing : complete planned reading request = .ok (time, completed))
    (authorized : signer.authorize planned draws time completed = .ok (signature, value)) :
    signer.sign reading draws request =
      ⟨.ok signature, completed.setField .authorization value, []⟩ := by
  simp [sign, unhooked, signPrepared, planning, completing, authorized, finish]

theorem steps_of_success (unhooked : signer.hooks = none)
    (success : (signer.sign reading draws request).result = .ok signature) :
    ∃ planned time completed value,
      signer.plan signer.settings request = .ok planned ∧
      complete planned reading request = .ok (time, completed) ∧
      signer.authorize planned draws time completed = .ok (signature, value) ∧
      (signer.sign reading draws request).request = completed.setField .authorization value := by
  rw [sign_eq_signFrom] at success ⊢
  have alone : signer.prepare request =
      { request, settings := signer.settings, onSigned := none, failure := none } := by
    simp [prepare, unhooked]
  have ends := signer.signFrom_ends reading draws (signer.prepare request)
  rw [alone] at success ends ⊢
  generalize signer.signFrom reading draws _ = outcome at success ends ⊢
  cases ends with
  | calledOff _ => simp at success
  | unplanned _ _ => simp at success
  | incomplete _ _ _ => simp at success
  | unsigned _ _ _ _ => simp at success
  | signed _ planning completing authorized =>
    obtain rfl := Except.ok.inj success
    exact ⟨_, _, _, _, planning, completing, authorized, rfl⟩

theorem exists_steps (unhooked : signer.hooks = none)
    (success : (signer.sign reading draws request).result = .ok signature) :
    ∃ steps : SigningSteps, steps.Lead signer reading draws request signature
      (signer.sign reading draws request).request := by
  obtain ⟨_, _, _, _, planning, completing, authorized, left⟩ := steps_of_success unhooked success
  obtain ⟨valid, requirement, permitted, rfl⟩ := (plan_eq_ok_iff _ _).1 planning
  obtain ⟨begun, ensured⟩ := (complete_eq_ok_iff _ _ _).1 completing
  obtain ⟨created, written⟩ := (authorize_eq_ok_iff _ _ _).1 authorized
  obtain ⟨expires, algorithm, octets, lasting, made, answered, told⟩ := createSignature_eq_ok created
  exact ⟨⟨requirement, _, _, expires, algorithm, octets, _⟩,
    { valid, permitted, begun, ensured, lasting, made, answered, told, written, left }⟩

theorem validate_of_success (unhooked : signer.hooks = none)
    (success : (signer.sign reading draws request).result = .ok signature) :
    ({ signer.settings with headers := signature.headers } : SigningSettings).validate = .ok () := by
  obtain ⟨_, _, _, _, planning, _, authorized, _⟩ := steps_of_success unhooked success
  obtain ⟨_, _, _, rfl⟩ := (plan_eq_ok_iff _ _).1 planning
  obtain ⟨created, _⟩ := (authorize_eq_ok_iff _ _ _).1 authorized
  obtain ⟨valid, _, _, _, _, _, _, rfl⟩ := (createSignature_eq_ok_iff _ _ _).1 created
  exact valid

theorem sign_of_lead {steps : SigningSteps} {signed : Request} (unhooked : signer.hooks = none)
    (lead : steps.Lead signer reading draws request signature signed)
    (valid : ({ signer.settings with headers := signature.headers } : SigningSettings).validate =
      .ok ()) :
    signer.sign reading draws request = ⟨.ok signature, signed, []⟩ := by
  rw [lead.headers_eq] at valid
  let planned := { signer.settings with headers := steps.names signer.settings request }
  have planning : signer.plan signer.settings request = .ok planned :=
    (plan_eq_ok_iff _ _).2 ⟨lead.valid, steps.requirement, lead.permitted, rfl⟩
  have completing : complete planned reading request = .ok (steps.time, steps.completed) :=
    (complete_eq_ok_iff _ _ _).2 ⟨lead.begun, lead.ensured⟩
  have created : planned.createSignature signer.registry draws steps.time steps.completed =
      .ok signature :=
    (createSignature_eq_ok_iff _ _ _).2 ⟨valid, steps.expires, steps.algorithm, steps.octets,
      lead.lasting, lead.made, lead.answered, lead.told⟩
  have authorized : signer.authorize planned draws steps.time steps.completed =
      .ok (signature, steps.value) :=
    (authorize_eq_ok_iff _ _ _).2 ⟨created, lead.written⟩
  rw [lead.left]
  exact sign_of_steps unhooked planning completing authorized

end RequestSigner
end SignedRequest
