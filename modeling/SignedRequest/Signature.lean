import SignedRequest.Error
import SignedRequest.Header
import SignedRequest.KeyId
import SignedRequest.Time

/-!
The proof that a sender attaches to a request.
-/

namespace SignedRequest

structure Signature where
  keyId : KeyId
  /-- The identifier of the algorithm, such as `rsa-sha512`. -/
  algorithm : Option String
  created : Option Instant
  expires : Option Instant
  headers : List HeaderName
  /-- The signature itself, in Base64. -/
  string : String
  nonce : Option String
  deriving BEq

namespace Signature

/-- The key identifier and the signature itself must not be empty. -/
def validate (signature : Signature) : Except ValidationError Unit :=
  if signature.keyId.isUnset then .error (.missingKeyId .signature)
  else if signature.string.isEmpty then .error .missingSignatureString
  else .ok ()

def lists (signature : Signature) (name : HeaderName) : Bool := signature.headers.contains name

end Signature
end SignedRequest
