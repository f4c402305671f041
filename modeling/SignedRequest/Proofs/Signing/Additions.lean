import SignedRequest.Proofs.Signing.Injection
import SignedRequest.Proofs.Signing.Steps

/-!
What signing adds to a request, value by value. It adds a date where one is signed and missing, a
digest where there was none, and the authorization header, and it touches no other name.
-/

namespace SignedRequest

def DateAdded (names : List HeaderName) (request : Request) : Prop :=
  HeaderName.date.Occurs names ∧ request.hasField "date" = false

/-- What a request has once a date and a digest that were missing are added to it, value by value.
What is added is the date of the time of signing, and the digest of the body. -/
structure Added (names : List HeaderName) (time : Instant) (algorithm : DigestAlgorithm)
    (request completed : Request) : Prop where
  others : ∀ name, name ≠ .date → name ≠ .digest →
    completed.fields.values name = request.fields.values name
  date :
    (DateAdded names request ∧ ∃ text value, HttpDate.format? time = some text ∧
      FieldValue.ofText? text = some value ∧ completed.fields.values .date = [value]) ∨
    (¬DateAdded names request ∧
      completed.fields.values .date = request.fields.values .date)
  digest :
    (request.fields.values .digest = [] ∧ ∃ body value, request.body = some body ∧
      FieldValue.ofText? (algorithm.headerValue body) = some value ∧
        completed.fields.values .digest = [value]) ∨
    completed.fields.values .digest = request.fields.values .digest

namespace Injection
open Outcome

theorem values_withDate {names : List HeaderName} {time : Instant} {request dated : Request}
    (made : withDate names time request = .ok dated) {name : FieldName} (other : name ≠ .date) :
    dated.fields.values name = request.fields.values name := by
  rcases withDate_cases made with ⟨-, -, value, -, rfl⟩ | ⟨-, rfl⟩
  · exact request.values_setField_of_ne .date value other
  · rfl

theorem values_withDigest {names : List HeaderName} {algorithm : DigestAlgorithm}
    {request digested : Request} (made : withDigest names algorithm request = .ok digested)
    {name : FieldName} (other : name ≠ .digest) :
    digested.fields.values name = request.fields.values name := by
  rcases withDigest_cases made with ⟨-, -, body, value, -, -, rfl⟩ | ⟨-, rfl⟩
  · exact request.values_setField_of_ne .digest value other
  · rfl

theorem added_of_ensure {names : List HeaderName} {time : Instant} {algorithm : DigestAlgorithm}
    {request completed : Request} (made : ensure names time algorithm request = .ok completed) :
    Added names time algorithm request completed := by
  obtain ⟨dated, first, second⟩ := (bind_eq_ok_iff _ _ _).1 made
  have before : dated.fields.values .digest = request.fields.values .digest :=
    values_withDate first (by decide)
  have after : completed.fields.values .date = dated.fields.values .date :=
    values_withDigest second (by decide)
  have body : dated.body = request.body := by
    rcases withDate_cases first with ⟨-, -, value, -, rfl⟩ | ⟨-, rfl⟩
    · rfl
    · rfl
  constructor
  case others =>
    intro name date digest
    exact (values_withDigest second digest).trans (values_withDate first date)
  case date =>
    rw [after]
    rcases withDate_cases first with ⟨listed, missing, value, written, rfl⟩ | ⟨there, rfl⟩
    · obtain ⟨text, told, written⟩ := Option.bind_eq_some_iff.1 written
      exact .inl ⟨⟨listed, missing⟩, text, value, told, written,
        request.values_setField_self .date value⟩
    · refine .inr ⟨fun ⟨listed, missing⟩ => ?_, rfl⟩
      simp [there listed] at missing
  case digest =>
    rw [← before, ← body]
    rcases withDigest_cases second with ⟨-, missing, octets, value, carried, written, rfl⟩ |
      ⟨-, rfl⟩
    · exact .inl ⟨Request.values_eq_nil missing, octets, value, carried, written,
        dated.values_setField_self .digest value⟩
    · exact .inr rfl

theorem digest_of_ensure {names : List HeaderName} {time : Instant} {algorithm : DigestAlgorithm}
    {request completed : Request} (made : ensure names time algorithm request = .ok completed)
    (listed : HeaderName.digest.Occurs names) (body : completed.body.isSome = true) :
    completed.hasField "digest" = true := by
  obtain ⟨dated, -, second⟩ := (bind_eq_ok_iff _ _ _).1 made
  rcases withDigest_cases second with ⟨-, -, _, value, -, -, rfl⟩ | ⟨there, rfl⟩
  · exact dated.hasField_setField_self .digest value
  · exact there listed body

theorem ensure_nil (time : Instant) (algorithm : DigestAlgorithm) (request : Request) :
    ensure [] time algorithm request = .ok request :=
  ensure_of_carried (by simp [HeaderName.Occurs]) (by simp [HeaderName.Occurs]) time algorithm

end Injection

namespace SigningSteps

variable {steps : SigningSteps} {signer : RequestSigner} {reading : Option Instant} {draws : Draws}
  {request signed : Request} {signature : Signature}
  (lead : steps.Lead signer reading draws request signature signed)
include lead

theorem Lead.added : Added (steps.names signer.settings request) steps.time
    (signer.settings.digest.getD .sha256) request steps.completed :=
  Injection.added_of_ensure lead.ensured

theorem Lead.completed :
    Injection.Completed (steps.names signer.settings request) request steps.completed :=
  Injection.completed_of_ensure lead.ensured

theorem Lead.values_authorization : signed.fields.values .authorization = [steps.value] := by
  rw [lead.left, Request.values_setField_self]

theorem Lead.values_completed {name : FieldName} (other : name ≠ .authorization) :
    signed.fields.values name = steps.completed.fields.values name := by
  rw [lead.left, Request.values_setField_of_ne _ _ _ other]

theorem Lead.values_digest (undigested : request.hasField "digest" = false) :
    signed.fields.values .digest = [] ∨ ∃ algorithm body value,
      FieldValue.ofText? (DigestAlgorithm.headerValue algorithm body) = some value ∧
        signed.fields.values .digest = [value] := by
  rw [lead.values_completed (by decide)]
  rcases lead.added.digest with ⟨-, body, value, -, written, carried⟩ | same
  · exact .inr ⟨_, body, value, written, carried⟩
  · exact .inl (same.trans (Request.values_eq_nil undigested))

theorem Lead.values_date :
    (DateAdded (steps.names signer.settings request) request ∧ ∃ text value,
      HttpDate.format? steps.time = some text ∧ FieldValue.ofText? text = some value ∧
        signed.fields.values .date = [value]) ∨
    (¬DateAdded (steps.names signer.settings request) request ∧
      signed.fields.values .date = request.fields.values .date) := by
  rw [lead.values_completed (by decide)]
  exact lead.added.date

theorem Lead.fieldTexts_other {text : String}
    (other : ∀ name ∈ [FieldName.date, .digest, .authorization],
      Text.asciiLower text ≠ name.text) : signed.fieldTexts text = request.fieldTexts text := by
  unfold Request.fieldTexts
  cases named : FieldName.ofText? text with
  | none => rfl
  | some name =>
    rw [FieldName.ofText?_eq_some_iff] at named
    have apart (special : FieldName) (member : special ∈ [.date, .digest, .authorization]) :
        name ≠ special := fun same => other special member (same ▸ named)
    have kept : signed.fields.values name = request.fields.values name := by
      rw [lead.values_completed (apart _ (by simp)),
        lead.added.others name (apart _ (by simp)) (apart _ (by simp))]
    simp only [kept]

end SigningSteps
end SignedRequest
