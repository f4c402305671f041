import SignedRequest.Algorithm.Registry
import SignedRequest.Encoding.Base64
import SignedRequest.Signing.Settings
import SignedRequest.SigningString

/-!
Making the signature of a request that has all the headers it needs.
-/

namespace SignedRequest.SigningSettings

def algorithmParameter (settings : SigningSettings) (algorithm : SignatureAlgorithm) : String :=
  match settings.parameter with
  | .explicit => algorithm.identifier
  | .hs2019 => SignedRequest.hs2019

def nonce? (settings : SigningSettings) (draws : Draws) : Option String :=
  if settings.withNonce then some (Base64.encode draws.nonce) else none

def createSignature (settings : SigningSettings) (registry : AlgorithmRegistry) (draws : Draws)
    (time : Instant) (request : Request) : Except Error Signature := do
  settings.validate.mapError Error.validation
  match time.add? settings.expires with
  | none => .error (.invalidArgument .expires)
  | some expires =>
    let nonce := settings.nonce? draws
    let signingString :=
      SigningString.compose request settings.headers time settings.expires nonce
    let algorithm ← registry.create settings.algorithm settings.hash settings.secret.octets
    let octets ← algorithm.sign draws (Bytes.ofText signingString)
    .ok
      { keyId := settings.keyId
        algorithm := some (settings.algorithmParameter algorithm)
        created := some time
        expires := some expires
        headers := settings.headers
        string := Base64.encode octets
        nonce }

end SignedRequest.SigningSettings
