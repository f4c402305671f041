import SignedRequest.Digest
import SignedRequest.Encoding.Base64
import SignedRequest.Policy
import SignedRequest.SigningString
import SignedRequest.Verification.Client

/-!
What a received request has to pass before it is accepted. The checks run in a fixed order and the
first that fails is told.
-/

namespace SignedRequest

structure Evidence where
  request : Request
  signature : Signature
  client : Client
  policy : HeaderPolicy
  now : Instant
  clockSkew : Duration

namespace Evidence

def requirement (evidence : Evidence) : Except VerificationError HeaderRequirement :=
  let algorithm := evidence.signature.algorithm
  (evidence.policy.requirementFor algorithm).mapError fun _ =>
    .unsupportedAlgorithm (algorithm.getD hs2019)

/-- A named algorithm is that of the client, or the choice is left to the client's key. -/
def checkAlgorithm (evidence : Evidence) : Except VerificationError Unit :=
  match evidence.signature.algorithm with
  | none => .ok ()
  | some algorithm =>
    if Text.sameAscii algorithm hs2019 then .ok ()
    else do
      let _ ← evidence.requirement
      if Text.sameAscii algorithm evidence.client.algorithm.identifier then .ok ()
      else .error .algorithmMismatch

def checkAllowed (evidence : Evidence) (name : HeaderName) : Except VerificationError Unit :=
  if evidence.signature.lists name then do
    let requirement ← evidence.requirement
    if requirement.forbidden.contains name then .error (.headerNotAllowed name) else .ok ()
  else .ok ()

def checkHeaders (evidence : Evidence) : Except VerificationError Unit := do
  let signature := evidence.signature
  if !signature.lists .requestTarget then .error (.missingHeader .requestTarget)
  let requirement ← evidence.requirement
  match requirement.required.find? fun name => !signature.lists name with
  | some name => .error (.missingHeader name)
  | none =>
    match signature.headers.find? fun name =>
        !name.isPseudo && !evidence.request.hasField name.text with
    | some name => .error (.missingHeader name)
    | none => .ok ()

/-- The signature was not made later than now, as far as clocks can be trusted. -/
def checkCreation (evidence : Evidence) : Except VerificationError Unit :=
  match evidence.signature.created with
  | none =>
    if evidence.signature.lists .created then .error (.missingTimestamp .created) else .ok ()
  | some created =>
    if evidence.clockSkew.nanos < created.nanosSince evidence.now then .error .createdInFuture
    else .ok ()

/-- The signature did not expire before now, as far as clocks can be trusted. -/
def checkExpiration (evidence : Evidence) : Except VerificationError Unit :=
  match evidence.signature.expires with
  | none =>
    if evidence.signature.lists .expires then .error (.missingTimestamp .expires) else .ok ()
  | some expires =>
    if evidence.clockSkew.nanos < evidence.now.nanosSince expires then .error .expired
    else .ok ()

def checkDigest (evidence : Evidence) : Except VerificationError Unit :=
  if evidence.signature.lists .digest then
    match evidence.request.firstFieldText? HeaderName.digest.text with
    | none => .error (.missingHeader .digest)
    | some value =>
      if matchesDigest value (evidence.request.body.getD []) then .ok ()
      else .error .digestMismatch
  else .ok ()

/-- The text that the signature has to belong to, at the times it claims. -/
def signingString (evidence : Evidence) (created expires : Instant) : String :=
  let signature := evidence.signature
  SigningString.compose evidence.request signature.headers created (expires.since created)
    signature.nonce

def accepts (evidence : Evidence) (signingString : String) : Bool :=
  match Base64.decode? evidence.signature.string with
  | none => false
  | some octets =>
    match evidence.client.algorithm.verify (Bytes.ofText signingString) octets with
    | .ok accepted => accepted
    | .error _ => false

def checkSignature (evidence : Evidence) : Except VerificationError Unit :=
  match evidence.signature.created, evidence.signature.expires with
  | none, _ => .error (.missingTimestamp .created)
  | some _, none => .error (.missingTimestamp .expires)
  | some created, some expires =>
    if evidence.accepts (evidence.signingString created expires) then .ok ()
    else .error .signatureMismatch

end Evidence

inductive Check where
  | algorithm
  | createdAllowed
  | expiresAllowed
  | headers
  | creation
  | expiration
  | digest
  | signature
  deriving DecidableEq

namespace Check

def run : Check → Evidence → Except VerificationError Unit
  | algorithm => Evidence.checkAlgorithm
  | createdAllowed => fun evidence => evidence.checkAllowed .created
  | expiresAllowed => fun evidence => evidence.checkAllowed .expires
  | headers => Evidence.checkHeaders
  | creation => Evidence.checkCreation
  | expiration => Evidence.checkExpiration
  | digest => Evidence.checkDigest
  | signature => Evidence.checkSignature

def all : List Check :=
  [algorithm, createdAllowed, expiresAllowed, headers, creation, expiration, digest, signature]

def runAll (evidence : Evidence) : List Check → Except VerificationError Unit
  | [] => .ok ()
  | check :: rest => do
    check.run evidence
    runAll evidence rest

end Check

def Evidence.check (evidence : Evidence) : Except VerificationError Unit :=
  Check.runAll evidence Check.all

end SignedRequest
