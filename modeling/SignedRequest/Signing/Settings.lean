import SignedRequest.Algorithm.Kind
import SignedRequest.Algorithm.Hash
import SignedRequest.Authorization.Parameters
import SignedRequest.Digest
import SignedRequest.Policy
import SignedRequest.Secret

/-!
How a sender signs: with which key and algorithm, for how long, and over which headers.
-/

namespace SignedRequest

inductive AlgorithmParameter where
  | explicit
  /-- The token that leaves the choice to the key. -/
  | hs2019
  deriving DecidableEq, Inhabited

structure SigningSettings where
  keyId : KeyId
  secret : Secret
  algorithm : AlgorithmKind
  hash : HashAlgorithm := .sha256
  expires : Duration := .ofSeconds 300
  headers : List HeaderName := [.requestTarget]
  scheme : String := Authorization.defaultScheme
  /-- The algorithm of a digest header, which is signed if there is one. -/
  digest : Option DigestAlgorithm := none
  parameter : AlgorithmParameter := .explicit
  withNonce : Bool := false

namespace SigningSettings

def validate (settings : SigningSettings) : Except ValidationError Unit :=
  if settings.keyId.isUnset then .error (.missingKeyId .signingSettings)
  else if settings.secret.isBlank then .error .missingSecret
  else if settings.headers.isEmpty || settings.headers.any HeaderName.isBlank then
    .error .missingHeaders
  else if settings.expires.isZero then .error .missingExpiration
  else if Text.isAllBlank settings.scheme then .error .missingAuthorizationScheme
  else .ok ()

def policyFamily (settings : SigningSettings) : String :=
  match settings.parameter with
  | .explicit => settings.algorithm.name
  | .hs2019 => SignedRequest.hs2019

end SigningSettings
end SignedRequest
