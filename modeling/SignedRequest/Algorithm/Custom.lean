import SignedRequest.Algorithm.Basic

/-!
Algorithms given by a signing function. Verifying signs again and compares, so the function has to
be deterministic.
-/

namespace SignedRequest.CustomAlgorithm

def ofFunction (name : String) (hash : HashAlgorithm)
    (sign : HashAlgorithm → Bytes → Except Error Bytes) : SignatureAlgorithm where
  name
  hash
  sign := fun _ content => do
    ensureContent content
    sign hash content
  verify := fun content signature => do
    ensureSignature content signature
    let expected ← sign hash content
    .ok (expected == signature)

end SignedRequest.CustomAlgorithm
