import SignedRequest.Proofs.Authorization.NormalForm
import SignedRequest.Proofs.Authorization.Scheme
import SignedRequest.Proofs.Encoding.Base64
import SignedRequest.Proofs.Signing.HeaderList
import SignedRequest.Proofs.Signing.Steps

/-!
Reading back the header that a sender adds. The scheme must stand before the first space, no text may
end at a quotation mark of its own, and no name may fall apart into words. A sender asks for none of
this of its key identifier, its scheme, its names in parentheses and the name of its algorithm.
-/

namespace SignedRequest
open Authorization

/-- The one authorization header of a request gives the signature back, in whole seconds and with its
names in lower case. -/
def Request.GivesBack (request : Request) (scheme : String) (signature : Signature) : Prop :=
  ∃ value parameters, request.fieldTexts "authorization" = [value] ∧
    stripScheme? value scheme = some parameters ∧ parse parameters = .ok (rounded signature)

/-- What settings and the signature made under them need to have for the header to be read back. -/
structure SigningSettings.Legible (settings : SigningSettings) (signature : Signature) : Prop where
  scheme : IsFront settings.scheme
  keyId : '"' ∉ settings.keyId.text.toList
  algorithm : ∀ text, signature.algorithm = some text → '"' ∉ text.toList
  names : ∀ name ∈ signature.headers, name.isPseudo = true →
    ∀ c ∈ name.text.toList, c ≠ '"' ∧ Text.isBlank c = false
  nonce : signature.nonce ≠ some ""

namespace SigningSteps

variable {steps : SigningSteps} {signer : RequestSigner} {reading : Option Instant} {draws : Draws}
  {request signed : Request} {signature : Signature}

theorem Lead.algorithm_ne_empty
    (lead : steps.Lead signer reading draws request signature signed) :
    signature.algorithm ≠ some "" := by
  rw [lead.told]
  intro empty
  replace empty := Option.some.inj empty
  unfold SigningSettings.algorithmParameter SignatureAlgorithm.identifier
    SignatureAlgorithm.identifierOf at empty
  split at empty
  · simpa [String.toList_append] using congrArg String.toList empty
  · exact absurd empty (by decide)

theorem Lead.legible_iff (lead : steps.Lead signer reading draws request signature signed) :
    signer.settings.Legible signature ↔
      IsFront signer.settings.scheme ∧ Authorization.Plain signature ∧ Separable signature := by
  have keyId : signature.keyId = signer.settings.keyId := by rw [lead.told]
  have solid {name : HeaderName} (listed : name ∈ signature.headers) :
      name.text ≠ "" ∧ (¬name.isPseudo = true →
        ∀ c ∈ name.text.toList, c ≠ '"' ∧ Text.isBlank c = false) := by
    rw [lead.told] at listed
    exact HeaderList.solid_of_isPresent (HeaderList.mem_of_mem_sanitize listed).2
  constructor
  · intro legible
    have names {name : HeaderName} (listed : name ∈ signature.headers) :
        ∀ c ∈ name.text.toList, c ≠ '"' ∧ Text.isBlank c = false :=
      (Decidable.em (name.isPseudo = true)).elim (legible.names name listed) (solid listed).2
    exact ⟨legible.scheme,
      { keyId := keyId ▸ legible.keyId
        algorithm := legible.algorithm
        headers := fun name listed quote => (names listed '"' quote).1 rfl
        nonce := fun text told quote => (lead.solid_nonce told '"' quote).2 rfl
        string := fun quote => (lead.solid_string '"' quote).2 rfl },
      { algorithm := lead.algorithm_ne_empty
        headers := fun name listed =>
          ⟨(solid listed).1, fun c member => (names listed c member).2⟩
        nonce := legible.nonce }⟩
  · rintro ⟨scheme, plain, separable⟩
    exact
      { scheme
        keyId := keyId ▸ plain.keyId
        algorithm := plain.algorithm
        names := fun name listed _ c member =>
          ⟨fun quote => plain.headers name listed (quote ▸ member),
            (separable.headers name listed).2 c member⟩
        nonce := separable.nonce }

theorem Lead.fieldTexts_authorization
    (lead : steps.Lead signer reading draws request signature signed) :
    signed.fieldTexts "authorization" = [headerValue signer.settings.scheme signature] := by
  have named : Text.asciiLower "authorization" = FieldName.authorization.text :=
    FieldName.authorization.asciiLower_text
  rw [lead.left, Request.fieldTexts_setField, if_pos named,
    FieldValue.text_of_ofText? lead.written]

end SigningSteps

/-- The header that a sender adds can be read back exactly if the scheme stands before the first
space, neither the key identifier nor the name of the algorithm has a quotation mark, no name in
parentheses has one or has white space, and a nonce that was drawn is not empty. -/
theorem RequestSigner.sign_gives_back_iff {signer : RequestSigner} (unhooked : signer.hooks = none)
    {reading : Option Instant} {draws : Draws} {request : Request} {signature : Signature}
    (success : (signer.sign reading draws request).result = .ok signature) :
    (signer.sign reading draws request).request.GivesBack signer.settings.scheme signature ↔
      signer.settings.Legible signature := by
  obtain ⟨steps, lead⟩ := exists_steps unhooked success
  have filled := (signer.settings.validate_eq_ok_iff.1 lead.valid).scheme
  rw [lead.legible_iff]
  constructor
  · rintro ⟨value, parameters, carried, stripped, parsed⟩
    obtain rfl := List.singleton_injective (lead.fieldTexts_authorization.symm.trans carried)
    have front := isFront_of_stripScheme? filled stripped
    rw [stripScheme?_headerValue filled front rfl] at stripped
    obtain rfl := Option.some.inj stripped
    exact ⟨front, (parse_render_eq_rounded_iff signature).1 parsed⟩
  · rintro ⟨front, texts⟩
    exact ⟨_, _, lead.fieldTexts_authorization, stripScheme?_headerValue filled front rfl signature,
      (parse_render_eq_rounded_iff signature).2 texts⟩

namespace Quoting

def signer : RequestSigner where
  settings := { keyId := ⟨"\""⟩, secret := .ofText "s", algorithm := .hmac }

def request : Request := .ofMethodAndTarget .get (.origin "/")

theorem not_given_back :
    ∃ signature, (signer.sign (some .epoch) ⟨[], []⟩ request).result = .ok signature ∧
      ¬(signer.sign (some .epoch) ⟨[], []⟩ request).request.GivesBack signer.settings.scheme
        signature := by
  have signs : (signer.sign (some .epoch) ⟨[], []⟩ request).result.toOption.isSome = true := by
    decide +kernel
  obtain ⟨signature, told⟩ := Option.isSome_iff_exists.1 signs
  have success := (Outcome.toOption_eq_some_iff _ _).1 told
  exact ⟨signature, success, fun back =>
    ((RequestSigner.sign_gives_back_iff rfl success).1 back).keyId (by decide)⟩

end Quoting
end SignedRequest
