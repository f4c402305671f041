import SignedRequest.Algorithm.Basic
import SignedRequest.Algorithm.KeyDocument

/-!
Signatures with keys on elliptic curves. A hash function is bound to the curve whose numbers are as
long as its hashes; there is none for the longest hash.
-/

namespace SignedRequest.EcdsaAlgorithm

def unsupported (hash : HashAlgorithm) : Error := .unsupportedAlgorithm "ecdsa" hash.name

def curveFor (hash : HashAlgorithm) : Except Error NamedCurve :=
  match hash with
  | .sha256 => .ok .p256
  | .sha384 => .ok .p384
  | .sha512 => .error (unsupported hash)

def checkCurve (hash : HashAlgorithm) (curve : NamedCurve) : Except Error Unit := do
  let expected ← curveFor hash
  if expected = curve then .ok () else .error (unsupported hash)

def verify (hash : HashAlgorithm) (curve : NamedCurve) (publicKey content signature : Bytes) :
    Except Error Bool := do
  ensureSignature content signature
  .ok (Ecdsa.verify curve.curve publicKey (hash.digest content) signature)

def ofPrivateKey (hash : HashAlgorithm) (curve : NamedCurve) (key : Ecdsa.PrivateKey) :
    KeyPairAlgorithm where
  name := "ECDSA"
  hash
  publicKey := key.publicPoint
  sign := fun draws content => do
    ensureContent content
    match Ecdsa.sign? curve.curve key.secret (hash.digest content) draws.secrets with
    | some signature => .ok signature
    | none => .error .signingFailed
  verify := verify hash curve key.publicPoint

def ofPublicKey (hash : HashAlgorithm) (curve : NamedCurve) (publicKey : Bytes) :
    KeyPairAlgorithm where
  name := "ECDSA"
  hash
  publicKey
  sign := fun _ content => do
    ensureContent content
    .error .missingPrivateKey
  verify := verify hash curve publicKey

def ofPkcs8 (hash : HashAlgorithm) (der : Bytes) : Except Error KeyPairAlgorithm := do
  let curve ← curveFor hash
  match Ecdsa.PrivateKey.ofPkcs8? curve.naming der with
  | some key => .ok (ofPrivateKey hash curve key)
  | none => .error .keyRejected

def ofPublicOctets (hash : HashAlgorithm) (octets : Bytes) : Except Error KeyPairAlgorithm := do
  let curve ← curveFor hash
  .ok (ofPublicKey hash curve octets)

def ofPrivate (hash : HashAlgorithm) : PrivateKey → Except Error KeyPairAlgorithm
  | .ecdsa curve key => do
    checkCurve hash curve
    .ok (ofPrivateKey hash curve key)
  | .rsa _ => .error (.key .unknownKeyType)

def ofPublic (hash : HashAlgorithm) : PublicKey → Except Error KeyPairAlgorithm
  | .ecdsa curve octets => do
    checkCurve hash curve
    .ok (ofPublicKey hash curve octets)
  | .rsa _ => .error (.key .unknownKeyType)

def ofPrivateDocument (hash : HashAlgorithm) (text : String) : Except Error KeyPairAlgorithm := do
  ofPrivate hash (← (KeyDocument.privateKey text).mapError Error.key)

def ofPublicDocument (hash : HashAlgorithm) (text : String) : Except Error KeyPairAlgorithm := do
  ofPublic hash (← (KeyDocument.publicKey text).mapError Error.key)

def ofMaterial (hash : HashAlgorithm) (material : Bytes) : Except Error KeyPairAlgorithm := do
  if KeyDocument.isDocument material then
    match ← (KeyDocument.keyOf material).mapError Error.key with
    | .secret key => ofPrivate hash key
    | .shared key => ofPublic hash key
  else ofPkcs8 hash material

end SignedRequest.EcdsaAlgorithm
