import SignedRequest.Proofs.Signing.Frame

/-!
Signing a message in transit, next to signing its request. The message takes the headers of the signed
request name by name and loses none of its own, so that a header that the first hook takes away, and
that signing does not add again, stays on the message.
-/

namespace SignedRequest

theorem Framed.values_eq_nil {reading : Option Instant} {prepared : Preparation} {left : Request}
    (framed : Framed reading prepared left) {name : FieldName} (other : name ≠ .authorization)
    (missing : left.fields.values name = []) : prepared.request.fields.values name = [] := by
  by_cases date : name = .date
  · subst date
    exact framed.date.elim And.left fun same => same.symm.trans missing
  · by_cases digest : name = .digest
    · subst digest
      exact framed.digest.elim And.left fun same => same.symm.trans missing
    · exact (framed.others name date digest other).symm.trans missing

namespace RequestSigner

/-- A header of a message that the first hook takes away and signing does not add again. -/
structure Withholds (signer : RequestSigner) (reading : Option Instant) (draws : Draws)
    (message : Message) (name : FieldName) : Prop where
  carried : message.fields.values name ≠ []
  removed : (signer.prepare message.toRequest).request.fields.values name = []
  missing : (signer.sign reading draws message.toRequest).request.fields.values name = []

variable {signer : RequestSigner} {reading : Option Instant} {draws : Draws}

theorem values_of_signed {request : Request} {signature : Signature}
    (success : (signer.sign reading draws request).result = .ok signature) {name : FieldName}
    (missing : (signer.sign reading draws request).request.fields.values name = []) :
    (signer.prepare request).request.fields.values name = [] := by
  refine (signer.sign_framed reading draws request).values_eq_nil (fun same => ?_) missing
  obtain ⟨value, -, carried⟩ :=
    (signer.sign_authorized reading draws request).carried signature (.returned success)
  rw [same, carried] at missing
  simp at missing

theorem signMessage_message {message : Message} {signature : Signature}
    (success : (signer.signMessage reading draws message).result = .ok signature) :
    (signer.signMessage reading draws message).message = { message with
      fields := message.fields.replaceBy
        (signer.sign reading draws message.toRequest).request.fields } := by
  have signed : (signer.sign reading draws message.toRequest).result = .ok signature := success
  rw [signMessage]
  simp only [signed]

/-- A message is signed as its request is, and is not touched if that fails. What it has of a name
then is what the signed request has, unless the name is withheld: such a name keeps the values that
it had on the message. -/
theorem signMessage_values (signer : RequestSigner) (reading : Option Instant) (draws : Draws)
    (message : Message) :
    let outcome := signer.sign reading draws message.toRequest
    let answer := signer.signMessage reading draws message
    answer.result = outcome.result ∧
    (∀ signature, answer.result = .ok signature →
      answer.message.method = message.method ∧ answer.message.target = message.target ∧
      answer.message.body = message.body ∧
      ∀ name, (answer.message.fields.values name = outcome.request.fields.values name ↔
          ¬signer.Withholds reading draws message name) ∧
        (signer.Withholds reading draws message name →
          answer.message.fields.values name = message.fields.values name)) ∧
    (∀ error, answer.result = .error error → answer.message = message) := by
  intro outcome answer
  refine ⟨rfl, fun signature success => ?_, fun error failed => ?_⟩
  · have taken : answer.message = { message with
        fields := message.fields.replaceBy outcome.request.fields } := signMessage_message success
    rw [taken]
    refine ⟨rfl, rfl, rfl, fun name => ?_⟩
    dsimp only
    rw [Fields.values_replaceBy]
    by_cases missing : outcome.request.fields.values name = []
    · have removed := values_of_signed success missing
      rw [if_pos missing, missing]
      refine ⟨⟨fun same withheld => withheld.carried same, fun kept => ?_⟩, fun _ => rfl⟩
      by_contra carried
      exact kept ⟨carried, removed, missing⟩
    · rw [if_neg missing]
      have kept : ¬signer.Withholds reading draws message name := fun withheld =>
        missing withheld.missing
      exact ⟨⟨fun _ => kept, fun _ => rfl⟩, fun withheld => absurd withheld kept⟩
  · have unsigned : outcome.result = .error error := failed
    simp only [answer, signMessage]
    rw [unsigned]

end RequestSigner

namespace Retained

def name : FieldName := ⟨"x-internal", by decide +kernel⟩

def hooks : SigningHooks where
  onSigning := fun request settings =>
    { request := request.removeField name, settings, onSigned := some fun _ _ _ => none,
      failure := none }

def signer : RequestSigner where
  settings := { keyId := ⟨"client"⟩, secret := .ofText "s", algorithm := .hmac }
  hooks := some hooks

def message : Message where
  method := .get
  target := .origin "/"
  fields := ⟨[(name, ⟨Bytes.ofText "a", by decide +kernel⟩)]⟩
  body := []

/-- The message is signed, and still has the header that the signed request has not. -/
theorem header_retained :
    (∀ request settings, ∃ fields, hooks.onSigning request settings =
      { request := { request with fields }, settings, onSigned := some fun _ _ _ => none,
        failure := none }) ∧
    (∃ signature, (signer.signMessage (some .epoch) ⟨[], []⟩ message).result = .ok signature) ∧
    (signer.sign (some .epoch) ⟨[], []⟩ message.toRequest).request.fields.values name = [] ∧
    (signer.signMessage (some .epoch) ⟨[], []⟩ message).message.fields.values name ≠ [] := by
  have signs :
      (signer.signMessage (some .epoch) ⟨[], []⟩ message).result.toOption.isSome = true := by
    decide +kernel
  obtain ⟨signature, told⟩ := Option.isSome_iff_exists.1 signs
  have success := (Outcome.toOption_eq_some_iff _ _).1 told
  have missing :
      (signer.sign (some .epoch) ⟨[], []⟩ message.toRequest).request.fields.values name = [] := by
    have framed := signer.sign_framed (some .epoch) ⟨[], []⟩ message.toRequest
    rw [framed.others name (by decide) (by decide) (by decide)]
    rfl
  refine ⟨fun request settings => ⟨request.fields.remove name, rfl⟩, ⟨signature, success⟩,
    missing, ?_⟩
  rw [RequestSigner.signMessage_message success, Fields.values_replaceBy, if_pos missing]
  decide

end Retained
end SignedRequest
