import SignedRequest.Algorithm.Basic
import SignedRequest.Algorithm.KeyDocument

/-!
Signatures with RSA keys. With a public key alone signatures can only be verified, and a public key
that cannot be read makes every verification fail.
-/

namespace SignedRequest.RsaAlgorithm

def verify (hash : HashAlgorithm) (publicKey content signature : Bytes) : Except Error Bool := do
  ensureSignature content signature
  match Rsa.PublicKey.ofDer? publicKey with
  | none => .ok false
  | some key =>
    .ok (key.isWithin Rsa.verificationLimits &&
      key.verify hash.signatureInfo (hash.digest content) signature)

def ofPrivateKey (hash : HashAlgorithm) (key : Rsa.PrivateKey) : KeyPairAlgorithm :=
  let publicKey := key.publicKey.toDer
  { name := "RSA"
    hash
    publicKey
    sign := fun _ content => do
      ensureContent content
      match key.sign? hash.signatureInfo (hash.digest content) with
      | some signature => .ok signature
      | none => .error .signingFailed
    verify := verify hash publicKey }

def ofPublicKey (hash : HashAlgorithm) (publicKey : Bytes) : KeyPairAlgorithm where
  name := "RSA"
  hash
  publicKey
  sign := fun _ content => do
    ensureContent content
    .error .missingPrivateKey
  verify := verify hash publicKey

def ofPrivateDer (hash : HashAlgorithm) (der : Bytes) : Except Error KeyPairAlgorithm :=
  match Rsa.PrivateKey.ofPkcs8? der <|> Rsa.PrivateKey.ofDer? der with
  | some key => .ok (ofPrivateKey hash key)
  | none => .error .keyRejected

def ofPrivate (hash : HashAlgorithm) : PrivateKey → Except Error KeyPairAlgorithm
  | .rsa key => .ok (ofPrivateKey hash key)
  | .ecdsa .. => .error (.key .unknownKeyType)

def ofPublic (hash : HashAlgorithm) : PublicKey → Except Error KeyPairAlgorithm
  | .rsa publicKey => .ok (ofPublicKey hash publicKey)
  | .ecdsa .. => .error (.key .unknownKeyType)

def ofPrivateDocument (hash : HashAlgorithm) (text : String) : Except Error KeyPairAlgorithm := do
  ofPrivate hash (← (KeyDocument.privateKey text).mapError Error.key)

def ofPublicDocument (hash : HashAlgorithm) (text : String) : Except Error KeyPairAlgorithm := do
  ofPublic hash (← (KeyDocument.publicKey text).mapError Error.key)

def ofMaterial (hash : HashAlgorithm) (material : Bytes) : Except Error KeyPairAlgorithm := do
  if KeyDocument.isDocument material then
    match ← (KeyDocument.keyOf material).mapError Error.key with
    | .secret key => ofPrivate hash key
    | .shared key => ofPublic hash key
  else ofPrivateDer hash material

end SignedRequest.RsaAlgorithm
