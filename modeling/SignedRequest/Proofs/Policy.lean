import SignedRequest.Algorithm.Registry
import SignedRequest.Policy
import SignedRequest.Proofs.Outcome

/-!
The standard families. An algorithm of the standard registry calls itself by its family and its hash
function, so that the standard policy has the same entry for both sides.
-/

namespace SignedRequest
open Outcome

/-- An algorithm is made under a name, and is bound to a hash function. -/
def SignatureAlgorithm.IsOf (algorithm : SignatureAlgorithm) (name : String)
    (hash : HashAlgorithm) : Prop :=
  algorithm.name = name ∧ algorithm.hash = hash

variable {hash : HashAlgorithm} {material : Bytes}

namespace RsaAlgorithm

theorem isOf_of_ofPrivate {key : PrivateKey} {algorithm : KeyPairAlgorithm}
    (made : ofPrivate hash key = .ok algorithm) :
    algorithm.toSignatureAlgorithm.IsOf "RSA" hash := by
  cases key with
  | rsa key =>
    cases made
    exact ⟨rfl, rfl⟩
  | ecdsa curve key => simp [ofPrivate] at made

theorem isOf_of_ofPublic {key : PublicKey} {algorithm : KeyPairAlgorithm}
    (made : ofPublic hash key = .ok algorithm) :
    algorithm.toSignatureAlgorithm.IsOf "RSA" hash := by
  cases key with
  | rsa octets =>
    cases made
    exact ⟨rfl, rfl⟩
  | ecdsa curve octets => simp [ofPublic] at made

theorem isOf_of_ofMaterial {algorithm : KeyPairAlgorithm}
    (made : ofMaterial hash material = .ok algorithm) :
    algorithm.toSignatureAlgorithm.IsOf "RSA" hash := by
  unfold ofMaterial at made
  split at made
  · obtain ⟨key, _, made⟩ := (bind_eq_ok_iff _ _ _).1 made
    cases key with
    | secret key => exact isOf_of_ofPrivate made
    | shared key => exact isOf_of_ofPublic made
  · unfold ofPrivateDer at made
    split at made
    · cases made
      exact ⟨rfl, rfl⟩
    · simp at made

end RsaAlgorithm

namespace EcdsaAlgorithm

theorem isOf_of_ofPrivate {key : PrivateKey} {algorithm : KeyPairAlgorithm}
    (made : ofPrivate hash key = .ok algorithm) :
    algorithm.toSignatureAlgorithm.IsOf "ECDSA" hash := by
  cases key with
  | rsa key => simp [ofPrivate] at made
  | ecdsa curve key =>
    obtain ⟨_, _, made⟩ := (bind_eq_ok_iff _ _ _).1 made
    cases made
    exact ⟨rfl, rfl⟩

theorem isOf_of_ofPublic {key : PublicKey} {algorithm : KeyPairAlgorithm}
    (made : ofPublic hash key = .ok algorithm) :
    algorithm.toSignatureAlgorithm.IsOf "ECDSA" hash := by
  cases key with
  | rsa octets => simp [ofPublic] at made
  | ecdsa curve octets =>
    obtain ⟨_, _, made⟩ := (bind_eq_ok_iff _ _ _).1 made
    cases made
    exact ⟨rfl, rfl⟩

theorem isOf_of_ofMaterial {algorithm : KeyPairAlgorithm}
    (made : ofMaterial hash material = .ok algorithm) :
    algorithm.toSignatureAlgorithm.IsOf "ECDSA" hash := by
  unfold ofMaterial at made
  split at made
  · obtain ⟨key, _, made⟩ := (bind_eq_ok_iff _ _ _).1 made
    cases key with
    | secret key => exact isOf_of_ofPrivate made
    | shared key => exact isOf_of_ofPublic made
  · obtain ⟨curve, _, made⟩ := (bind_eq_ok_iff _ _ _).1 made
    split at made
    · cases made
      exact ⟨rfl, rfl⟩
    · simp at made

end EcdsaAlgorithm

theorem HmacAlgorithm.isOf_of_ofSecret {algorithm : SignatureAlgorithm}
    (made : ofSecret hash material = .ok algorithm) : algorithm.IsOf "HMAC" hash := by
  unfold ofSecret at made
  split at made
  · simp at made
  · cases made
    exact ⟨rfl, rfl⟩

namespace AlgorithmRegistry

theorem get?_register (registry : AlgorithmRegistry) (family name : String)
    (make : AlgorithmConstructor) :
    (registry.register family make).constructors.get? name =
      if Text.lower family = name then some make else registry.constructors.get? name :=
  Table.get?_put _ _ _ _

/-- The families that need no registration, by what their algorithms call themselves. -/
inductive IsStandard : String → String → Prop where
  | rsa : IsStandard "rsa" "RSA"
  | hmac : IsStandard "hmac" "HMAC"
  | ecdsa : IsStandard "ecdsa" "ECDSA"

theorem lower_families : Text.lower "rsa" = "rsa" ∧ Text.lower "hmac" = "hmac" ∧
    Text.lower "ecdsa" = "ecdsa" := by
  decide +kernel

theorem standard_create_hmac (hash : HashAlgorithm) (material : Bytes) :
    standard.create .hmac hash material = HmacAlgorithm.ofSecret hash material := by
  have found : standard.constructors.get? (AlgorithmKind.name .hmac) =
      some HmacAlgorithm.ofSecret := by
    simp [standard, get?_register, lower_families, AlgorithmKind.name]
  rw [create, found]

theorem IsStandard.identifier_plain {family name : String} (known : IsStandard family name)
    (hash : HashAlgorithm) :
    SignatureAlgorithm.identifierOf name hash ≠ "" ∧
      '"' ∉ (SignatureAlgorithm.identifierOf name hash).toList := by
  cases known <;> cases hash <;> decide +kernel

/-- What the standard registry makes of key material, by the family. -/
inductive Makes (hash : HashAlgorithm) (material : Bytes) : String → SignatureAlgorithm → Prop where
  | rsa {pair : KeyPairAlgorithm} (built : RsaAlgorithm.ofMaterial hash material = .ok pair) :
      Makes hash material "rsa" pair.toSignatureAlgorithm
  | hmac {algorithm : SignatureAlgorithm}
      (built : HmacAlgorithm.ofSecret hash material = .ok algorithm) :
      Makes hash material "hmac" algorithm
  | ecdsa {pair : KeyPairAlgorithm} (built : EcdsaAlgorithm.ofMaterial hash material = .ok pair) :
      Makes hash material "ecdsa" pair.toSignatureAlgorithm

theorem makes_of_standard_create {kind : AlgorithmKind} {algorithm : SignatureAlgorithm}
    (made : standard.create kind hash material = .ok algorithm) :
    Makes hash material kind.name algorithm := by
  unfold create at made
  simp only [standard, get?_register, lower_families] at made
  split at made
  · rename_i make found
    split at found
    · rename_i ecdsa
      cases found
      obtain ⟨pair, built, made⟩ := (bind_eq_ok_iff _ _ _).1 made
      cases made
      exact ecdsa ▸ .ecdsa built
    · split at found
      · rename_i hmac
        cases found
        exact hmac ▸ .hmac made
      · split at found
        · rename_i rsa
          cases found
          obtain ⟨pair, built, made⟩ := (bind_eq_ok_iff _ _ _).1 made
          cases made
          exact rsa ▸ .rsa built
        · simp [empty] at found
  · simp at made

theorem standard_create {kind : AlgorithmKind} {algorithm : SignatureAlgorithm}
    (made : standard.create kind hash material = .ok algorithm) :
    ∃ name, IsStandard kind.name name ∧ algorithm.IsOf name hash := by
  have makes := makes_of_standard_create made
  generalize kind.name = family at makes
  cases makes with
  | rsa built => exact ⟨"RSA", .rsa, RsaAlgorithm.isOf_of_ofMaterial built⟩
  | hmac built => exact ⟨"HMAC", .hmac, HmacAlgorithm.isOf_of_ofSecret built⟩
  | ecdsa built => exact ⟨"ECDSA", .ecdsa, EcdsaAlgorithm.isOf_of_ofMaterial built⟩

end AlgorithmRegistry

namespace HeaderPolicy

theorem familyOf_identifier {family name : String}
    (known : AlgorithmRegistry.IsStandard family name) (hash : HashAlgorithm) :
    familyOf (some (SignatureAlgorithm.identifierOf name hash)) = family := by
  cases known <;> cases hash <;> decide +kernel

theorem familyOf_hs2019 : familyOf (some hs2019) = hs2019 := by decide +kernel

theorem get?_withFamily (policy : HeaderPolicy) (family name : String)
    (requirement : HeaderRequirement) :
    (policy.withFamily family requirement).families.get? name =
      if Text.lower family = name then some requirement else policy.families.get? name :=
  Table.get?_put _ _ _ _

theorem standard_requirement {family : String} {requirement : HeaderRequirement}
    (found : standard.requirement family = .ok requirement) :
    requirement = ⟨[.date], [.created, .expires]⟩ ∨ requirement = ⟨[.created, .expires], []⟩ := by
  unfold HeaderPolicy.requirement at found
  simp only [standard, get?_withFamily] at found
  split at found
  · rename_i entry known
    cases found
    split at known
    · exact .inr (Option.some.inj known).symm
    · repeat
        split at known
        · exact .inl (Option.some.inj known).symm
      simp [empty] at known
  · simp at found

end HeaderPolicy
end SignedRequest
