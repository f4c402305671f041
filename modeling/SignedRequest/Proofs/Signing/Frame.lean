import SignedRequest.Proofs.Signing.Additions
import SignedRequest.Proofs.Signing.HeaderList

/-!
What signing leaves of a request, whatever comes of it. Method, target, body and all but three
headers stay as the first hook left them; a date and a digest are added only where there was none;
and the authorization header changes only once there is a signature for it to carry.
-/

namespace SignedRequest
open Outcome

/-- What is left of a request that was prepared. A date that was added is that of the time of
signing, and a digest that was added is that of the body. -/
structure Framed (reading : Option Instant) (prepared : Preparation) (left : Request) : Prop where
  method : left.method = prepared.request.method
  target : left.target = prepared.request.target
  body : left.body = prepared.request.body
  others : ∀ name, name ≠ .date → name ≠ .digest → name ≠ .authorization →
    left.fields.values name = prepared.request.fields.values name
  date :
    (prepared.request.fields.values .date = [] ∧ ∃ time text value,
      RequestSigner.signingTime reading = .ok time ∧ HttpDate.format? time = some text ∧
        FieldValue.ofText? text = some value ∧ left.fields.values .date = [value]) ∨
    left.fields.values .date = prepared.request.fields.values .date
  digest :
    (prepared.request.fields.values .digest = [] ∧ ∃ body value,
      prepared.request.body = some body ∧
        FieldValue.ofText? ((prepared.settings.digest.getD .sha256).headerValue body) = some value ∧
        left.fields.values .digest = [value]) ∨
    left.fields.values .digest = prepared.request.fields.values .digest

namespace Framed

variable {reading : Option Instant} {prepared : Preparation}

theorem untouched : Framed reading prepared prepared.request :=
  { method := rfl
    target := rfl
    body := rfl
    others := fun _ _ _ _ => rfl
    date := .inr rfl
    digest := .inr rfl }

theorem setField_authorization {left : Request} (framed : Framed reading prepared left)
    (value : FieldValue) : Framed reading prepared (left.setField .authorization value) := by
  have kept {name : FieldName} (other : name ≠ .authorization) :
      (left.setField .authorization value).fields.values name = left.fields.values name :=
    left.values_setField_of_ne .authorization value other
  exact
    { method := framed.method
      target := framed.target
      body := framed.body
      others := fun name date digest authorization =>
        (kept authorization).trans (framed.others name date digest authorization)
      date := by
        rw [kept (by decide)]
        exact framed.date
      digest := by
        rw [kept (by decide)]
        exact framed.digest }

end Framed

namespace RequestSigner

variable {signer : RequestSigner} {reading : Option Instant} {draws : Draws}
  {prepared : Preparation} {settings : SigningSettings} {time : Instant} {completed : Request}

theorem added_of_complete
    (planned : signer.plan prepared.settings prepared.request = .ok settings)
    (completing : complete settings reading prepared.request = .ok (time, completed)) :
    Added settings.headers time (prepared.settings.digest.getD .sha256) prepared.request
      completed := by
  obtain ⟨-, requirement, -, rfl⟩ := (plan_eq_ok_iff _ _).1 planned
  exact Injection.added_of_ensure ((complete_eq_ok_iff _ _ _).1 completing).2

theorem framed_of_complete
    (planned : signer.plan prepared.settings prepared.request = .ok settings)
    (completing : complete settings reading prepared.request = .ok (time, completed)) :
    Framed reading prepared completed := by
  have added := added_of_complete planned completing
  obtain ⟨begun, ensured⟩ := (complete_eq_ok_iff _ _ _).1 completing
  have completion := Injection.completed_of_ensure ensured
  exact
    { method := completion.method
      target := completion.target
      body := completion.body
      others := fun name date digest _ => added.others name date digest
      date := by
        rcases added.date with ⟨⟨-, missing⟩, text, value, told, written, carried⟩ | ⟨-, same⟩
        · exact .inl ⟨Request.values_eq_nil missing, time, text, value, begun, told, written,
            carried⟩
        · exact .inr same
      digest := added.digest }

theorem Ending.framed {outcome : SigningOutcome}
    (ends : signer.Ending reading draws prepared outcome) :
    Framed reading prepared outcome.request := by
  cases ends with
  | calledOff _ => exact .untouched
  | unplanned _ _ => exact .untouched
  | incomplete _ _ _ => exact .untouched
  | unsigned _ planned completing _ => exact framed_of_complete planned completing
  | signed _ planned completing _ =>
    rw [finish_request]
    exact (framed_of_complete planned completing).setField_authorization _

/-- A step fails that comes before the signature: the first hook, the settings, the policy or the
clock; or the settings fail once more, for the names that are left to sign. -/
inductive Refuses (signer : RequestSigner) (reading : Option Instant) (prepared : Preparation) :
    Error → Prop where
  | hook {reason : String} (failed : prepared.failure = some reason) :
      Refuses signer reading prepared (.hook reason)
  | settings {error : ValidationError} (passed : prepared.failure = none)
      (failed : prepared.settings.validate = .error error) :
      Refuses signer reading prepared (.validation error)
  | policy {error : ValidationError} (passed : prepared.failure = none)
      (valid : prepared.settings.validate = .ok ())
      (failed : signer.policy.requirement prepared.settings.policyFamily = .error error) :
      Refuses signer reading prepared (.validation error)
  | clock {settings : SigningSettings} {error : Error} (passed : prepared.failure = none)
      (planned : signer.plan prepared.settings prepared.request = .ok settings)
      (failed : signingTime reading = .error error) :
      Refuses signer reading prepared error
  | names {settings : SigningSettings} {time : Instant} {error : ValidationError}
      (passed : prepared.failure = none)
      (planned : signer.plan prepared.settings prepared.request = .ok settings)
      (begun : signingTime reading = .ok time) (failed : settings.validate = .error error) :
      Refuses signer reading prepared (.validation error)

theorem headers_eq_nil_of_invalid {error : ValidationError}
    (planned : signer.plan prepared.settings prepared.request = .ok settings)
    (failed : settings.validate = .error error) : settings.headers = [] := by
  obtain ⟨valid, requirement, -, rfl⟩ := (plan_eq_ok_iff _ _).1 planned
  have complete := (SigningSettings.validate_eq_ok_iff _).1 valid
  by_contra listed
  have still : SigningSettings.Complete { prepared.settings with
      headers := HeaderList.sanitize prepared.settings prepared.request requirement } :=
    { keyId := complete.keyId
      secret := complete.secret
      listed
      names := fun name member =>
        HeaderList.isBlank_of_isPresent (HeaderList.mem_of_mem_sanitize member).2
      expires := complete.expires
      scheme := complete.scheme }
  rw [(SigningSettings.validate_eq_ok_iff _).2 still] at failed
  simp at failed

theorem signFrom_of_refuses {error : Error} (refused : signer.Refuses reading prepared error) :
    signer.signFrom reading draws prepared = ⟨.error error, prepared.request, []⟩ := by
  cases refused with
  | hook failed => simp [signFrom, failed]
  | settings passed failed =>
    rename_i reason
    have unplanned : signer.plan prepared.settings prepared.request =
        .error (.validation reason) := by
      rw [plan, failed]
      rfl
    simp [signFrom, signPrepared, passed, unplanned]
  | policy passed valid failed =>
    rename_i reason
    have unplanned : signer.plan prepared.settings prepared.request =
        .error (.validation reason) := by
      rw [plan, valid, failed]
      rfl
    simp [signFrom, signPrepared, passed, unplanned]
  | clock passed planned failed =>
    rename_i settings
    have incomplete : complete settings reading prepared.request = .error error := by
      rw [complete, failed]
      rfl
    simp [signFrom, signPrepared, passed, planned, incomplete]
  | names passed planned begun failed =>
    rename_i settings time reason
    -- With no name left to sign nothing is added to the request either.
    have nothing := headers_eq_nil_of_invalid planned failed
    have completing : complete settings reading prepared.request = .ok (time, prepared.request) :=
      (complete_eq_ok_iff _ _ _).2 ⟨begun, by rw [nothing, Injection.ensure_nil]⟩
    have unsigned : signer.authorize settings draws time prepared.request =
        .error (.validation reason) := by
      rw [authorize, SigningSettings.createSignature, failed]
      rfl
    simp [signFrom, signPrepared, passed, planned, completing, unsigned]

end RequestSigner

/-- An outcome tells a signature, or comes of a second hook that failed over it. -/
inductive SigningOutcome.Yields (outcome : SigningOutcome) (signature : Signature) : Prop where
  | returned (told : outcome.result = .ok signature)
  | refused {seen : Request} {settings : SigningSettings} {reason : String}
      (called : .signed seen signature settings ∈ outcome.calls)
      (failed : outcome.result = .error (.hook reason))

/-- The authorization header of what is left has the one value that carries the signature, if there
is one, and its old values otherwise. -/
structure SigningOutcome.Authorized (outcome : SigningOutcome) (prepared : Preparation) :
    Prop where
  carried : ∀ signature, outcome.Yields signature → ∃ value,
    FieldValue.ofText? (Authorization.headerValue prepared.settings.scheme signature) = some value ∧
      outcome.request.fields.values .authorization = [value]
  kept : (∀ signature, ¬outcome.Yields signature) →
    outcome.request.fields.values .authorization = prepared.request.fields.values .authorization

namespace RequestSigner

variable {signer : RequestSigner} {reading : Option Instant} {draws : Draws}
  {prepared : Preparation} {signature : Signature}

theorem yields_finish_iff (onSigned : Option SignedHook) (settings : SigningSettings)
    (made : Signature) (request : Request) :
    (finish onSigned settings made request).Yields signature ↔ signature = made := by
  unfold finish
  constructor
  · intro yields
    cases yields with
    | returned told =>
      split at told
      · exact (Except.ok.inj told).symm
      · dsimp only at told
        split at told
        · simp at told
        · exact (Except.ok.inj told).symm
    | refused called failed =>
      split at called
      · simp at called
      · exact (HookCall.signed.inj (List.mem_singleton.1 called)).2.1
  · rintro rfl
    split
    · exact .returned rfl
    · rename_i hook
      cases hook request signature settings with
      | none => exact .returned rfl
      | some reason => exact .refused (List.mem_singleton_self _) rfl

theorem yields_opening_iff (signer : RequestSigner) (request : Request) (outcome : SigningOutcome) :
    SigningOutcome.Yields { outcome with calls := signer.opening request ++ outcome.calls }
      signature ↔ outcome.Yields signature := by
  have first (seen : Request) (settings : SigningSettings) :
      .signed seen signature settings ∉ signer.opening request := by
    unfold opening
    split
    · simp
    · simp
  constructor
  · intro yields
    cases yields with
    | returned told => exact .returned told
    | refused called failed =>
      exact .refused ((List.mem_append.1 called).resolve_left (first _ _)) failed
  · intro yields
    cases yields with
    | returned told => exact .returned told
    | refused called failed => exact .refused (List.mem_append_right _ called) failed

theorem authorized_of_error (error : Error) {left : Request}
    (kept : left.fields.values .authorization = prepared.request.fields.values .authorization) :
    SigningOutcome.Authorized ⟨.error error, left, []⟩ prepared := by
  refine ⟨fun signature yields => ?_, fun _ => kept⟩
  cases yields with
  | returned told => simp at told
  | refused called _ => simp at called

theorem Ending.authorized {outcome : SigningOutcome}
    (ends : signer.Ending reading draws prepared outcome) : outcome.Authorized prepared := by
  cases ends with
  | calledOff _ => exact authorized_of_error _ rfl
  | unplanned _ _ => exact authorized_of_error _ rfl
  | incomplete _ _ _ => exact authorized_of_error _ rfl
  | unsigned _ planned completing _ =>
    have added := added_of_complete planned completing
    exact authorized_of_error _ (added.others .authorization (by decide) (by decide))
  | signed _ planned completing authorized =>
    obtain ⟨-, requirement, -, rfl⟩ := (plan_eq_ok_iff _ _).1 planned
    obtain ⟨-, written⟩ := (authorize_eq_ok_iff _ _ _).1 authorized
    refine ⟨fun signature yields => ?_, fun none => ?_⟩
    · obtain rfl := (yields_finish_iff _ _ _ _).1 yields
      refine ⟨_, written, ?_⟩
      rw [finish_request, Request.values_setField_self]
    · exact absurd ((yields_finish_iff _ _ _ _).2 rfl) (none _)

theorem sign_framed (signer : RequestSigner) (reading : Option Instant) (draws : Draws)
    (request : Request) :
    Framed reading (signer.prepare request) (signer.sign reading draws request).request := by
  rw [sign_eq_signFrom]
  exact (signer.signFrom_ends reading draws (signer.prepare request)).framed

theorem sign_authorized (signer : RequestSigner) (reading : Option Instant) (draws : Draws)
    (request : Request) :
    (signer.sign reading draws request).Authorized (signer.prepare request) := by
  have ends := signer.signFrom_ends reading draws (signer.prepare request)
  rw [sign_eq_signFrom]
  constructor
  · intro signature yields
    exact ends.authorized.carried signature ((yields_opening_iff _ _ _).1 yields)
  · intro none
    exact ends.authorized.kept fun signature yields =>
      none signature ((yields_opening_iff _ _ _).2 yields)

/-- Signing leaves a request framed and authorized, whatever comes of it; and a request that is
refused before the signature is not touched at all. -/
theorem sign_frame (signer : RequestSigner) (reading : Option Instant) (draws : Draws)
    (request : Request) :
    let prepared := signer.prepare request
    let outcome := signer.sign reading draws request
    Framed reading prepared outcome.request ∧
    (∀ error, signer.Refuses reading prepared error →
      outcome.result = .error error ∧ outcome.request = prepared.request) ∧
    outcome.Authorized prepared := by
  intro prepared outcome
  refine ⟨signer.sign_framed reading draws request, fun error refused => ?_,
    signer.sign_authorized reading draws request⟩
  have same : outcome = { signer.signFrom reading draws prepared with
      calls := signer.opening request ++ (signer.signFrom reading draws prepared).calls } :=
    signer.sign_eq_signFrom reading draws request
  rw [same, signFrom_of_refuses refused]
  exact ⟨rfl, rfl⟩

end RequestSigner
end SignedRequest
