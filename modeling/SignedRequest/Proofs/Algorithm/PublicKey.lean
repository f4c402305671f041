import SignedRequest.Algorithm.Registry
import SignedRequest.Proofs.Encoding.Der
import SignedRequest.Proofs.Outcome

/-!
Algorithms with key pairs that are made of a text. A text is no private key in binary form, so it is
read as a document, which says whether it holds a public key; with a public key signatures can only be
verified, and with a private key they can be made.
-/

namespace SignedRequest
open Outcome

namespace Pkcs8

theorem infix_of_unwrap? {algorithm document key : Bytes}
    (read : unwrap? algorithm document = some key) : algorithm <:+: document := by
  simp only [unwrap?, Option.bind_eq_bind, Option.bind_eq_some_iff] at read
  obtain ⟨fields, whole, ⟨version, afterVersion⟩, number, read⟩ := read
  obtain ⟨-, read⟩ := Option.ite_none_left_eq_some.1 read
  obtain ⟨⟨found, afterName⟩, named, read⟩ := Option.bind_eq_some_iff.1 read
  obtain ⟨same, -⟩ := Option.ite_none_left_eq_some.1 read
  obtain rfl := Decidable.not_not.1 same
  have inDocument := (Der.infix_of_tagged? (Der.tagged?_of_only? whole)).1
  have inFields := (Der.octetLength_of_integer? number).2
  exact (Der.infix_of_tagged? named).1.trans (inFields.trans inDocument)

theorem unwrap?_ofText {algorithm : Bytes} (unspoken : [0x2a, 0x86] <:+: algorithm) (text : String) :
    unwrap? algorithm (Bytes.ofText text) = none := by
  refine Option.eq_none_iff_forall_not_mem.2 fun key read => ?_
  have inside := unspoken.trans (infix_of_unwrap? read)
  exact Text.Utf8.not_pair_infix_ofText (by decide) (by decide) text inside

end Pkcs8

namespace Rsa

theorem PrivateKey.size_of_isConsistent {key : PrivateKey} {d : Nat}
    (consistent : key.isConsistent d = true) : 256 ≤ key.publicKey.size := by
  simp only [isConsistent, Bool.and_eq_true, and_assoc] at consistent
  obtain ⟨within, -⟩ := consistent
  simp only [PublicKey.isWithin, Bool.and_eq_true, and_assoc, decide_eq_true_eq] at within
  obtain ⟨-, large, -⟩ := within
  have sized : 2048 ≤ 8 * octetLength key.publicKey.modulus := large
  rw [PublicKey.size]
  omega

theorem PrivateKey.large_of_ofDer? {der : Bytes} {key : PrivateKey}
    (read : PrivateKey.ofDer? der = some key) :
    ∃ content, Der.only? Pkcs8.lengthWidth Der.sequenceTag der = some content ∧
      256 ≤ content.length := by
  simp only [PrivateKey.ofDer?, Option.bind_eq_bind, Option.bind_eq_some_iff] at read
  obtain ⟨content, whole, ⟨version, afterVersion⟩, number, read⟩ := read
  obtain ⟨-, read⟩ := Option.ite_none_left_eq_some.1 read
  simp only [Option.bind_eq_some_iff, Option.ite_none_right_eq_some] at read
  obtain ⟨⟨n, _⟩, modulus, ⟨e, _⟩, -, ⟨d, _⟩, -, ⟨p, _⟩, -, ⟨q, _⟩, -, ⟨dp, _⟩, -, ⟨dq, _⟩, -,
    ⟨qInv, _⟩, -, ⟨-, consistent⟩, -⟩ := read
  have size : 256 ≤ octetLength n := PrivateKey.size_of_isConsistent consistent
  have held := (Der.octetLength_of_integer? modulus).1
  have inside := (Der.octetLength_of_integer? number).2.length_le
  exact ⟨content, whole, Nat.le_trans (Nat.le_trans size held) inside⟩

theorem PrivateKey.ofDer?_ofText (text : String) : PrivateKey.ofDer? (Bytes.ofText text) = none := by
  refine Option.eq_none_iff_forall_not_mem.2 fun key read => ?_
  obtain ⟨content, whole, large⟩ := large_of_ofDer? read
  have short := Der.length_lt_of_text whole
  omega

end Rsa

/-- Verifies signatures and makes none, for want of a private key. -/
def SignatureAlgorithm.VerifiesOnly (algorithm : SignatureAlgorithm) : Prop :=
  ∀ draws content, content ≠ [] → algorithm.sign draws content = .error .missingPrivateKey

theorem ensureContent_of_ne_nil {content : Bytes} (some : content ≠ []) :
    ensureContent content = .ok () := by
  rw [ensureContent, if_neg (by simpa using some)]

theorem ensureContent_ne_missingPrivateKey (content : Bytes) :
    ensureContent content ≠ .error .missingPrivateKey := by
  unfold ensureContent
  split <;> simp

namespace KeyDocument

theorem keyOf_ofText {text : String} {key : Key} (read : keyOf (Bytes.ofText text) = .ok key) :
    (isPublic text = true ∧ ∃ publicKey, key = .shared publicKey) ∨
    (isPublic text = false ∧ ∃ held, privateKey text = .ok held ∧ key = .secret held) := by
  have decoded : orElse .malformedKey (Text.Utf8.strict? (Bytes.ofText text)) = .ok text := by
    rw [Text.Utf8.strict?_ofText]
    rfl
  rw [keyOf, decoded] at read
  obtain ⟨_, ⟨⟩, read⟩ := (bind_eq_ok_iff _ _ _).1 read
  split at read
  · rename_i said
    obtain ⟨publicKey, -, same⟩ := (map_eq_ok_iff _ _ _).1 read
    exact .inl ⟨said, publicKey, same.symm⟩
  · rename_i silent
    obtain ⟨held, found, same⟩ := (map_eq_ok_iff _ _ _).1 read
    exact .inr ⟨Bool.not_eq_true _ ▸ silent, held, found, same.symm⟩

end KeyDocument

/-- Which key of a pair an algorithm was made of. -/
inductive KeyPairAlgorithm.Holds (pair : KeyPairAlgorithm) : KeyDocument.Key → Prop where
  | shared {key : PublicKey} (verifies : pair.VerifiesOnly) : pair.Holds (.shared key)
  | secret {key : PrivateKey}
      (signs : ∀ draws content, pair.sign draws content ≠ .error .missingPrivateKey) :
      pair.Holds (.secret key)

variable {hash : HashAlgorithm} {text : String} {pair : KeyPairAlgorithm}

namespace RsaAlgorithm

theorem verifiesOnly_ofPublicKey (hash : HashAlgorithm) (octets : Bytes) :
    (ofPublicKey hash octets).VerifiesOnly := by
  intro draws content filled
  simp [ofPublicKey, ensureContent_of_ne_nil filled, bind, Except.bind]

theorem sign_ofPrivateKey_ne (hash : HashAlgorithm) (key : Rsa.PrivateKey) (draws : Draws)
    (content : Bytes) : (ofPrivateKey hash key).sign draws content ≠ .error .missingPrivateKey := by
  refine bind_ne_error (ensureContent_ne_missingPrivateKey content) fun _ => ?_
  split <;> simp

theorem holds_of_ofMaterial (made : ofMaterial hash (Bytes.ofText text) = .ok pair) :
    ∃ key, KeyDocument.keyOf (Bytes.ofText text) = .ok key ∧ pair.Holds key := by
  unfold ofMaterial at made
  split at made
  · obtain ⟨key, read, made⟩ := (bind_eq_ok_iff _ _ _).1 made
    refine ⟨key, (mapError_eq_ok_iff _ _ _).1 read, ?_⟩
    match key with
    | .secret (.rsa key) =>
      cases made
      exact .secret (sign_ofPrivateKey_ne hash key)
    | .shared (.rsa octets) =>
      cases made
      exact .shared (verifiesOnly_ofPublicKey hash octets)
    | .secret (.ecdsa _ _) => simp [ofPrivate] at made
    | .shared (.ecdsa _ _) => simp [ofPublic] at made
  · have binary : Rsa.PrivateKey.ofPkcs8? (Bytes.ofText text) = none := by
      have unspoken : [0x2a, 0x86] <:+: Rsa.algorithmId := ⟨[0x06, 0x09], _, rfl⟩
      rw [Rsa.PrivateKey.ofPkcs8?, Pkcs8.unwrap?_ofText unspoken]
      rfl
    simp [ofPrivateDer, binary, Rsa.PrivateKey.ofDer?_ofText] at made

end RsaAlgorithm

namespace EcdsaAlgorithm

theorem verifiesOnly_ofPublicKey (hash : HashAlgorithm) (curve : NamedCurve) (octets : Bytes) :
    (ofPublicKey hash curve octets).VerifiesOnly := by
  intro draws content filled
  simp [ofPublicKey, ensureContent_of_ne_nil filled, bind, Except.bind]

theorem sign_ofPrivateKey_ne (hash : HashAlgorithm) (curve : NamedCurve) (key : Ecdsa.PrivateKey)
    (draws : Draws) (content : Bytes) :
    (ofPrivateKey hash curve key).sign draws content ≠ .error .missingPrivateKey := by
  refine bind_ne_error (ensureContent_ne_missingPrivateKey content) fun _ => ?_
  split <;> simp

theorem holds_of_ofMaterial (made : ofMaterial hash (Bytes.ofText text) = .ok pair) :
    ∃ key, KeyDocument.keyOf (Bytes.ofText text) = .ok key ∧ pair.Holds key := by
  unfold ofMaterial at made
  split at made
  · obtain ⟨key, read, made⟩ := (bind_eq_ok_iff _ _ _).1 made
    refine ⟨key, (mapError_eq_ok_iff _ _ _).1 read, ?_⟩
    match key with
    | .secret (.ecdsa curve key) =>
      obtain ⟨-, -, made⟩ := (bind_eq_ok_iff _ _ _).1 made
      cases made
      exact .secret (sign_ofPrivateKey_ne hash curve key)
    | .shared (.ecdsa curve octets) =>
      obtain ⟨-, -, made⟩ := (bind_eq_ok_iff _ _ _).1 made
      cases made
      exact .shared (verifiesOnly_ofPublicKey hash curve octets)
    | .secret (.rsa _) => simp [ofPrivate] at made
    | .shared (.rsa _) => simp [ofPublic] at made
  · obtain ⟨curve, -, made⟩ := (bind_eq_ok_iff _ _ _).1 made
    have binary : Ecdsa.PrivateKey.ofPkcs8? curve.naming (Bytes.ofText text) = none := by
      have unspoken : [0x2a, 0x86] <:+: Ecdsa.keyName ++ curve.naming.name := ⟨[0x06, 0x07], _, rfl⟩
      rw [Ecdsa.PrivateKey.ofPkcs8?, Pkcs8.unwrap?_ofText unspoken]
      rfl
    simp [binary] at made

end EcdsaAlgorithm

/-- A document that says so holds a public key, and every other one a private key. -/
theorem KeyPairAlgorithm.Holds.verifiesOnly_iff {key : KeyDocument.Key} (holds : pair.Holds key)
    (read : KeyDocument.keyOf (Bytes.ofText text) = .ok key) :
    (pair.VerifiesOnly ↔ KeyDocument.isPublic text = true) ∧
    (KeyDocument.isPublic text = false → (∃ key, KeyDocument.privateKey text = .ok key) ∧
      ∀ draws content, pair.sign draws content ≠ .error .missingPrivateKey) := by
  rcases KeyDocument.keyOf_ofText read with ⟨said, _, rfl⟩ | ⟨silent, held, found, rfl⟩
  · cases holds with
    | shared verifies => exact ⟨⟨fun _ => said, fun _ => verifies⟩, by simp [said]⟩
  · cases holds with
    | secret signs =>
      refine ⟨⟨fun verifies => ?_, by simp [silent]⟩, fun _ => ⟨⟨held, found⟩, signs⟩⟩
      exact absurd (verifies default [0] (by simp)) (signs default [0])

end SignedRequest
