import SignedRequest.Configuration.Verification
import SignedRequest.Proofs.Algorithm.PublicKey
import SignedRequest.Proofs.Signing.Standard

/-!
Clients that are made of a configuration. One with a public key is meant to verify only. That holds
for the families of key pairs as long as the text does not hold a private key instead; but a shared
secret may be any text, and where the family is that of shared secrets the public text is the secret,
with which everyone can sign.
-/

namespace SignedRequest
open Outcome

namespace ClientConfiguration

section
variable {configuration : ClientConfiguration} {registry : AlgorithmRegistry} {client : Client}

theorem parts_of_toClient (made : configuration.toClient registry = .ok client) :
    (client.keyId = configuration.keyId ∧ client.keyId.isUnset = false) ∧
      ∃ material, configuration.material = .ok material ∧
        registry.create configuration.algorithm configuration.hash material =
          .ok client.algorithm := by
  unfold toClient at made
  split at made
  · simp [bind, Except.bind] at made
  · rename_i set
    obtain ⟨material, held, made⟩ := (bind_eq_ok_iff _ _ _).1 made
    obtain ⟨algorithm, created, made⟩ := (bind_eq_ok_iff _ _ _).1 made
    obtain rfl := Except.ok.inj made
    exact ⟨⟨rfl, by simpa using set⟩, material, held, created⟩

theorem material_of_publicKey {text : String} (unshared : configuration.secret = none)
    (given : configuration.publicKey = some text) :
    configuration.material = .ok (Bytes.ofText text) := by
  rw [material, unshared, given]

/-- A client with a public key cannot sign exactly if its family is one of key pairs and the text says
that it is a public key. Of the other texts, that of a private key signs with that key; and where the
family is that of shared secrets, everyone who knows the text can sign. -/
theorem verifiesOnly_iff_of_publicKey {text : String} (unshared : configuration.secret = none)
    (given : configuration.publicKey = some text)
    (made : configuration.toClient .standard = .ok client) :
    (client.algorithm.VerifiesOnly ↔
      configuration.algorithm.name ≠ "hmac" ∧ KeyDocument.isPublic text = true) ∧
    (configuration.algorithm.name ≠ "hmac" → KeyDocument.isPublic text = false →
      (∃ key, KeyDocument.privateKey text = .ok key) ∧
        ∀ draws content, client.algorithm.sign draws content ≠ .error .missingPrivateKey) ∧
    (configuration.algorithm.name = "hmac" → ∀ draws content, content ≠ [] →
      let tag := configuration.hash.hmac (Bytes.ofText text) content
      client.algorithm.sign draws content = .ok tag ∧
        client.algorithm.verify content tag = .ok true) := by
  obtain ⟨-, _, held, created⟩ := parts_of_toClient made
  obtain rfl := Except.ok.inj ((material_of_publicKey unshared given).symm.trans held)
  have makes := AlgorithmRegistry.makes_of_standard_create created
  generalize configuration.algorithm.name = family at makes ⊢
  generalize client.algorithm = algorithm at makes ⊢
  cases makes with
  | rsa built =>
    obtain ⟨key, read, holds⟩ := RsaAlgorithm.holds_of_ofMaterial built
    obtain ⟨verifies, secret⟩ := holds.verifiesOnly_iff read
    exact ⟨by simpa using verifies, fun _ => secret, by simp⟩
  | ecdsa built =>
    obtain ⟨key, read, holds⟩ := EcdsaAlgorithm.holds_of_ofMaterial built
    obtain ⟨verifies, secret⟩ := holds.verifiesOnly_iff read
    exact ⟨by simpa using verifies, fun _ => secret, by simp⟩
  | hmac built =>
    have forged (draws : Draws) {content : Bytes} (filled : content ≠ []) :
        algorithm.sign draws content =
          .ok (configuration.hash.hmac (Bytes.ofText text) content) :=
      (HmacAlgorithm.sign_eq_ok_iff built draws _ _).2 ⟨filled, rfl⟩
    refine ⟨⟨fun verifies => ?_, fun other => absurd rfl other.1⟩, fun other => absurd rfl other, ?_⟩
    · have signed := forged default (List.cons_ne_nil 0 [])
      rw [verifies default [0] (by simp)] at signed
      simp at signed
    · intro _ draws content filled
      have tagged := configuration.hash.hmac_ne_nil (Bytes.ofText text) content
      exact ⟨forged draws filled,
        (HmacAlgorithm.verify_eq_ok_true_iff built _ _).2 ⟨filled, tagged, rfl⟩⟩

end

namespace PublicText

def text : String := "-----BEGIN PUBLIC KEY-----\nMFkw\n-----END PUBLIC KEY-----\n"

def configuration : ClientConfiguration where
  keyId := ⟨"a"⟩
  name := "b"
  algorithm := .hmac
  hash := .sha256
  secret := none
  publicKey := some text
  nonceLifetimeSeconds := none
  clockSkewSeconds := none
  claims := []

/-- The public text serves as a secret: with it anyone makes what the client accepts. -/
theorem forged_with_text :
    ∃ client, configuration.toClient .standard = .ok client ∧
      KeyDocument.isPublic text = true ∧ ¬client.algorithm.VerifiesOnly ∧
      ∀ content, content ≠ [] →
        client.algorithm.verify content (HashAlgorithm.sha256.hmac (Bytes.ofText text) content) =
          .ok true := by
  have makes : (configuration.toClient .standard).toOption.isSome = true := by decide +kernel
  obtain ⟨client, made⟩ := exists_eq_ok makes
  obtain ⟨verifies, -, forged⟩ := verifiesOnly_iff_of_publicKey rfl rfl made
  refine ⟨client, made, by decide +kernel, fun only => (verifies.1 only).1 rfl, ?_⟩
  exact fun content filled => (forged rfl default content filled).2

end PublicText

end ClientConfiguration

end SignedRequest
