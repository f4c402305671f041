import SignedRequest.Configuration.Value
import SignedRequest.Signing.Settings

/-!
The configuration of a sender.
-/

namespace SignedRequest

namespace AlgorithmParameter

def configuredName : AlgorithmParameter → String
  | explicit => "explicit"
  | hs2019 => "hs2019"

def ofConfiguredName? (text : String) : Option AlgorithmParameter :=
  [explicit, hs2019].find? fun parameter => text == parameter.configuredName

end AlgorithmParameter

namespace DigestAlgorithm

def configuredName : DigestAlgorithm → String
  | sha256 => "sha-256"
  | sha512 => "sha-512"

def ofConfiguredName? (text : String) : Option DigestAlgorithm :=
  all.find? fun algorithm => text == algorithm.configuredName

end DigestAlgorithm

structure SigningConfiguration where
  keyId : KeyId
  secret : Secret
  algorithm : AlgorithmKind
  hash : HashAlgorithm
  expiresSeconds : Nat
  headers : List HeaderName
  scheme : String
  digest : Option DigestAlgorithm
  parameter : AlgorithmParameter
  withNonce : Bool

namespace SigningConfiguration

open SignedRequest.Configuration

def ofValue? (format : Format) (value : Value) : Option SigningConfiguration := do
  let record ← Record.ofValue? format 10 value
  let keyId ← record.required 0 "key-id" Value.toText?
  let secret ← record.required 1 "secret" Value.toText?
  let algorithm ← record.required 2 "algorithm" Value.toText?
  let hash ← record.optional 3 "hash-algorithm" .sha256
    (Value.toName? format HashAlgorithm.ofConfiguredName?)
  let expiresSeconds ← record.optional 4 "expires-secs" 300 Value.toNat?
  let headers ← record.optional 5 "headers" [HeaderName.requestTarget.text]
    (Value.toList? Value.toText?)
  let scheme ← record.optional 6 "authorization-scheme" Authorization.defaultScheme Value.toText?
  let digest ← record.optional 7 "digest-algorithm" none
    (Value.toOption? (Value.toName? format DigestAlgorithm.ofConfiguredName?))
  let parameter ← record.optional 8 "algorithm-parameter" .explicit
    (Value.toName? format AlgorithmParameter.ofConfiguredName?)
  let withNonce ← record.optional 9 "enable-nonce" false Value.toBool?
  some
    { keyId := ⟨keyId⟩
      secret := .ofText secret
      algorithm := .ofName algorithm
      hash
      expiresSeconds
      headers := headers.map HeaderName.mk
      scheme
      digest
      parameter
      withNonce }

def toValue (configuration : SigningConfiguration) : Value :=
  .table
    [("key-id", .text configuration.keyId.text),
      ("secret", .text configuration.secret.text),
      ("algorithm", .text configuration.algorithm.name),
      ("hash-algorithm", .text configuration.hash.name),
      ("expires-secs", .integer configuration.expiresSeconds),
      ("headers", .list (configuration.headers.map fun name => .text name.text)),
      ("authorization-scheme", .text configuration.scheme),
      ("digest-algorithm",
        (configuration.digest.map fun digest => Value.text digest.configuredName).getD .null),
      ("algorithm-parameter", .text configuration.parameter.configuredName),
      ("enable-nonce", .boolean configuration.withNonce)]

def settings (configuration : SigningConfiguration) : SigningSettings where
  keyId := configuration.keyId
  secret := configuration.secret
  algorithm := configuration.algorithm
  hash := configuration.hash
  expires := .ofSeconds configuration.expiresSeconds
  headers := configuration.headers
  scheme := configuration.scheme
  digest := configuration.digest
  parameter := configuration.parameter
  withNonce := configuration.withNonce

def toSettings (configuration : SigningConfiguration) : Except Error SigningSettings := do
  configuration.settings.validate.mapError Error.validation
  .ok configuration.settings

end SigningConfiguration
end SignedRequest
