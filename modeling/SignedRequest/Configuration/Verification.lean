import SignedRequest.Algorithm.Registry
import SignedRequest.Configuration.Value
import SignedRequest.Secret
import SignedRequest.Verification.Verifier

/-!
The configuration of a receiver and its clients.
-/

namespace SignedRequest

open SignedRequest.Configuration

/-- A client, which is configured with a secret or with a public key. -/
structure ClientConfiguration where
  keyId : KeyId
  name : String
  algorithm : AlgorithmKind
  hash : HashAlgorithm
  secret : Option Secret
  publicKey : Option String
  nonceLifetimeSeconds : Option Nat
  clockSkewSeconds : Option Nat
  claims : List Claim

namespace ClientConfiguration

def claimOfValue? (format : Format) (value : Value) : Option Claim := do
  let record ← Record.ofValue? format 2 value
  let name ← record.required 0 "name" Value.toText?
  let text ← record.required 1 "value" Value.toText?
  some ⟨name, text⟩

def ofValue? (format : Format) (value : Value) : Option ClientConfiguration := do
  let record ← Record.ofValue? format 9 value
  let keyId ← record.required 0 "key-id" Value.toText?
  let name ← record.required 1 "name" Value.toText?
  let algorithm ← record.required 2 "algorithm" Value.toText?
  let hash ← record.optional 3 "hash-algorithm" .sha256
    (Value.toName? format HashAlgorithm.ofConfiguredName?)
  let secret ← record.optional 4 "secret" none (Value.toOption? Value.toText?)
  let publicKey ← record.optional 5 "public-key" none (Value.toOption? Value.toText?)
  let nonceLifetimeSeconds ← record.optional 6 "nonce-lifetime-secs" none
    (Value.toOption? Value.toNat?)
  let clockSkewSeconds ← record.optional 7 "clock-skew-secs" none (Value.toOption? Value.toNat?)
  let claims ← record.optional 8 "claims" [] (Value.toList? (claimOfValue? format))
  some
    { keyId := ⟨keyId⟩
      name
      algorithm := .ofName algorithm
      hash
      secret := secret.map Secret.ofText
      publicKey
      nonceLifetimeSeconds
      clockSkewSeconds
      claims }

def textOrNull (text : Option String) : Value := (text.map Value.text).getD .null

def numberOrNull (n : Option Nat) : Value := (n.map fun n => Value.integer n).getD .null

def toValue (configuration : ClientConfiguration) : Value :=
  .table
    [("key-id", .text configuration.keyId.text),
      ("name", .text configuration.name),
      ("algorithm", .text configuration.algorithm.name),
      ("hash-algorithm", .text configuration.hash.name),
      ("secret", textOrNull (configuration.secret.map Secret.text)),
      ("public-key", textOrNull configuration.publicKey),
      ("nonce-lifetime-secs", numberOrNull configuration.nonceLifetimeSeconds),
      ("clock-skew-secs", numberOrNull configuration.clockSkewSeconds),
      ("claims",
        .list (configuration.claims.map fun claim =>
          .table [("name", .text claim.name), ("value", .text claim.value)]))]

/-- The octets that the client's algorithm is made from: those of the secret or of the public key,
whichever is given. -/
def material (configuration : ClientConfiguration) : Except Error Bytes :=
  match configuration.secret, configuration.publicKey with
  | some secret, none => .ok secret.octets
  | none, some publicKey => .ok (Bytes.ofText publicKey)
  | _, _ => .error (.invalidArgument .clientKey)

def toClient (configuration : ClientConfiguration) (registry : AlgorithmRegistry) :
    Except Error Client := do
  if configuration.keyId.isUnset then .error (.invalidArgument .clientKeyId)
  let material ← configuration.material
  let algorithm ← registry.create configuration.algorithm configuration.hash material
  .ok
    { keyId := configuration.keyId
      name := configuration.name
      algorithm
      nonceLifetime := configuration.nonceLifetimeSeconds.map Duration.ofSeconds
      clockSkew := configuration.clockSkewSeconds.map Duration.ofSeconds
      claims := configuration.claims }

end ClientConfiguration

structure VerificationConfiguration where
  scheme : String
  clockSkewSeconds : Nat
  nonceLifetimeSeconds : Nat
  /-- How long clients are remembered; not at all unless it is positive. -/
  cacheSeconds : Int
  clients : List ClientConfiguration

namespace VerificationConfiguration

def ofValue? (format : Format) (value : Value) : Option VerificationConfiguration := do
  let record ← Record.ofValue? format 5 value
  let scheme ← record.optional 0 "authorization-scheme" Authorization.defaultScheme Value.toText?
  let clockSkewSeconds ← record.optional 1 "clock-skew-secs" 60 Value.toNat?
  let nonceLifetimeSeconds ← record.optional 2 "nonce-lifetime-secs" 300 Value.toNat?
  let cacheSeconds ← record.optional 3 "client-cache-ttl-secs" 0 Value.toInt?
  let clients ← record.optional 4 "clients" []
    (Value.toList? (ClientConfiguration.ofValue? format))
  some { scheme, clockSkewSeconds, nonceLifetimeSeconds, cacheSeconds, clients }

def toValue (configuration : VerificationConfiguration) : Value :=
  .table
    [("authorization-scheme", .text configuration.scheme),
      ("clock-skew-secs", .integer configuration.clockSkewSeconds),
      ("nonce-lifetime-secs", .integer configuration.nonceLifetimeSeconds),
      ("client-cache-ttl-secs", .integer configuration.cacheSeconds),
      ("clients", .list (configuration.clients.map ClientConfiguration.toValue))]

def cacheLifetime (configuration : VerificationConfiguration) : Duration :=
  .ofSeconds configuration.cacheSeconds.toNat

def options (configuration : VerificationConfiguration) : VerificationOptions where
  scheme := configuration.scheme
  clockSkew := .ofSeconds configuration.clockSkewSeconds
  nonceLifetime := .ofSeconds configuration.nonceLifetimeSeconds

def toClients (configuration : VerificationConfiguration) (registry : AlgorithmRegistry) :
    Except Error (List Client) :=
  configuration.clients.mapM fun client => client.toClient registry

end VerificationConfiguration
end SignedRequest
