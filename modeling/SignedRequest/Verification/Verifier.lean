import SignedRequest.Authorization.Parameters
import SignedRequest.Authorization.Parse
import SignedRequest.Verification.Check
import SignedRequest.Verification.ClientStore
import SignedRequest.Verification.NonceStore

/-!
Verifying a request: its signature is read from the authorization header, the client is looked up,
the checks are run, and last a nonce is used up, so that a request which is not accepted uses up
none.
-/

namespace SignedRequest

structure VerificationOptions where
  scheme : String := Authorization.defaultScheme
  clockSkew : Duration := .ofSeconds 60
  nonceLifetime : Duration := .ofSeconds 300

inductive VerificationOutcome where
  | success (client : Client) (signature : Signature)
  /-- With the client and the signature as far as they are known. -/
  | failure (error : VerificationError) (client : Option Client) (signature : Option Signature)

def VerificationOutcome.claims : VerificationOutcome → List Claim
  | success client _ => client.allClaims
  | failure .. => []

structure RequestVerifier (σ ν : Type) where
  clients : ClientStore σ
  nonces : NonceStore ν
  options : VerificationOptions := {}
  policy : HeaderPolicy := .standard

namespace RequestVerifier

variable {σ ν : Type}

def received? (options : VerificationOptions) (request : Request) : Option Signature := do
  let value ← request.firstFieldText? FieldName.authorization.text
  let parameters ← Authorization.stripScheme? value options.scheme
  (Authorization.parse parameters).toOption

def evidence (verifier : RequestVerifier σ ν) (request : Request) (signature : Signature)
    (client : Client) (now : Instant) : Evidence where
  request
  signature
  client
  policy := verifier.policy
  now
  clockSkew := client.clockSkew.getD verifier.options.clockSkew

def nonceLifetime (verifier : RequestVerifier σ ν) (client : Client) : Duration :=
  client.nonceLifetime.getD verifier.options.nonceLifetime

/-- Accepts a signature that passed the checks, unless its nonce has been used. -/
def accept (verifier : RequestVerifier σ ν) (signature : Signature) (client : Client)
    (now : Instant) (nonces : ν) : Except Error VerificationOutcome × ν :=
  match signature.nonce with
  | none => (.ok (.success client signature), nonces)
  | some value =>
    match now.add? (verifier.nonceLifetime client) with
    | none => (.error (.invalidArgument .nonceLifetime), nonces)
    | some expiration =>
      match verifier.nonces.registerIfUnused ⟨client.keyId, value, expiration⟩ now nonces with
      | (.error error, nonces) => (.error error, nonces)
      | (.ok true, nonces) => (.ok (.success client signature), nonces)
      | (.ok false, nonces) =>
        (.ok (.failure .replayedNonce (some client) (some signature)), nonces)

def judge (verifier : RequestVerifier σ ν) (reading : Option Instant) (request : Request)
    (signature : Signature) (client : Client) (nonces : ν) :
    Except Error VerificationOutcome × ν :=
  match reading with
  | none => (.error .clockOutOfRange, nonces)
  | some now =>
    match (verifier.evidence request signature client now).check with
    | .error error => (.ok (.failure error (some client) (some signature)), nonces)
    | .ok () => verifier.accept signature client now nonces

/-- Verifies a request at a reading of the clock. It is an error only if a store fails or time runs
out of range. -/
def verify (verifier : RequestVerifier σ ν) (reading : Option Instant) (request : Request)
    (clients : σ) (nonces : ν) : Except Error VerificationOutcome × σ × ν :=
  match received? verifier.options request with
  | none => (.ok (.failure .invalidSignature none none), clients, nonces)
  | some signature =>
    match signature.validate with
    | .error _ => (.ok (.failure .invalidSignature none (some signature)), clients, nonces)
    | .ok () =>
      match verifier.clients.get reading signature.keyId clients with
      | (.error (.verification error), clients) =>
        (.ok (.failure error none (some signature)), clients, nonces)
      | (.error error, clients) => (.error error, clients, nonces)
      | (.ok client, clients) =>
        let (result, nonces) := verifier.judge reading request signature client nonces
        (result, clients, nonces)

end RequestVerifier
end SignedRequest
