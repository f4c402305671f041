import SignedRequest.Algorithm.Basic

/-!
Signatures with a shared secret.
-/

namespace SignedRequest.HmacAlgorithm

def ofSecret (hash : HashAlgorithm) (secret : Bytes) : Except Error SignatureAlgorithm :=
  if secret.isEmpty then .error (.invalidArgument .secret)
  else
    .ok
      { name := "HMAC"
        hash
        sign := fun _ content => do
          ensureContent content
          .ok (hash.hmac secret content)
        verify := fun content signature => do
          ensureSignature content signature
          .ok (hash.hmac secret content == signature) }

end SignedRequest.HmacAlgorithm
