import SignedRequest.Algorithm.Hash
import SignedRequest.Error

/-!
Signature algorithms that hold their key. An algorithm is known by the name of its family and the
hash function it is bound to; it signs octets and verifies signatures over them.
-/

namespace SignedRequest

/-- What is drawn at random for one signature: the octets of a nonce, and the secret numbers that
may be tried. -/
structure Draws where
  nonce : Bytes
  secrets : List Nat
  deriving Inhabited

structure SignatureAlgorithm where
  /-- The name of the family, such as `RSA`. -/
  name : String
  hash : HashAlgorithm
  sign : Draws → Bytes → Except Error Bytes
  verify : Bytes → Bytes → Except Error Bool

namespace SignatureAlgorithm

def identifierOf (name : String) (hash : HashAlgorithm) : String :=
  Text.lower name ++ "-" ++ hash.name

def identifier (algorithm : SignatureAlgorithm) : String :=
  identifierOf algorithm.name algorithm.hash

end SignatureAlgorithm

/-- An algorithm with a key pair, of which it may hold the public key only. -/
structure KeyPairAlgorithm extends SignatureAlgorithm where
  publicKey : Bytes

def ensureContent (content : Bytes) : Except Error Unit :=
  if content.isEmpty then .error (.invalidArgument .content) else .ok ()

def ensureSignature (content signature : Bytes) : Except Error Unit := do
  ensureContent content
  if signature.isEmpty then .error (.invalidArgument .signature) else .ok ()

end SignedRequest
