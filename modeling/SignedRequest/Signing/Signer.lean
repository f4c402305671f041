import SignedRequest.Signing.Creation
import SignedRequest.Signing.HeaderList
import SignedRequest.Signing.Hooks
import SignedRequest.Signing.Injection

/-!
Signing a request. The outcome tells the signature or why there is none, and the request as it is
left: a request that could not be signed may have been given a date and a digest, but no new
authorization header.
-/

namespace SignedRequest

structure RequestSigner where
  settings : SigningSettings
  registry : AlgorithmRegistry := .standard
  policy : HeaderPolicy := .standard
  hooks : Option SigningHooks := none

structure SigningOutcome where
  result : Except Error Signature
  request : Request
  calls : List HookCall

namespace RequestSigner

def signingTime : Option Instant → Except Error Instant
  | none => .error .clockOutOfRange
  | some now =>
    match now.wholeSecond? with
    | some time => .ok time
    | none => .error .timeBeforeEpoch

def plan (signer : RequestSigner) (settings : SigningSettings) (request : Request) :
    Except Error SigningSettings := do
  settings.validate.mapError Error.validation
  let requirement ← (signer.policy.requirement settings.policyFamily).mapError Error.validation
  .ok { settings with headers := HeaderList.sanitize settings request requirement }

def complete (settings : SigningSettings) (reading : Option Instant) (request : Request) :
    Except Error (Instant × Request) := do
  let time ← signingTime reading
  let request ← Injection.ensure settings.headers time (settings.digest.getD .sha256) request
  .ok (time, request)

def authorize (signer : RequestSigner) (settings : SigningSettings) (draws : Draws)
    (time : Instant) (request : Request) : Except Error (Signature × FieldValue) := do
  let signature ← settings.createSignature signer.registry draws time request
  match FieldValue.ofText? (Authorization.headerValue settings.scheme signature) with
  | some value => .ok (signature, value)
  | none => .error .invalidFieldValue

def finish (onSigned : Option SignedHook) (settings : SigningSettings) (signature : Signature)
    (request : Request) : SigningOutcome :=
  match onSigned with
  | none => ⟨.ok signature, request, []⟩
  | some hook =>
    let result :=
      match hook request signature settings with
      | some reason => .error (.hook reason)
      | none => .ok signature
    ⟨result, request, [.signed request signature settings]⟩

def signPrepared (signer : RequestSigner) (settings : SigningSettings)
    (onSigned : Option SignedHook) (reading : Option Instant) (draws : Draws)
    (request : Request) : SigningOutcome :=
  match signer.plan settings request with
  | .error error => ⟨.error error, request, []⟩
  | .ok settings =>
    match complete settings reading request with
    | .error error => ⟨.error error, request, []⟩
    | .ok (time, completed) =>
      match signer.authorize settings draws time completed with
      | .error error => ⟨.error error, completed, []⟩
      | .ok (signature, value) =>
        finish onSigned settings signature (completed.setField .authorization value)

def sign (signer : RequestSigner) (reading : Option Instant) (draws : Draws) (request : Request) :
    SigningOutcome :=
  match signer.hooks with
  | none => signer.signPrepared signer.settings none reading draws request
  | some hooks =>
    let preparation := hooks.onSigning request signer.settings
    let call := HookCall.signing request signer.settings
    match preparation.failure with
    | some reason => ⟨.error (.hook reason), preparation.request, [call]⟩
    | none =>
      let outcome :=
        signer.signPrepared preparation.settings preparation.onSigned reading draws
          preparation.request
      { outcome with calls := call :: outcome.calls }

end RequestSigner

structure MessageOutcome where
  result : Except Error Signature
  message : Message
  calls : List HookCall

/-- Signs a message in transit, which gets the headers of the signed request. A message that could
not be signed is left as it was. -/
def RequestSigner.signMessage (signer : RequestSigner) (reading : Option Instant) (draws : Draws)
    (message : Message) : MessageOutcome :=
  let outcome := signer.sign reading draws message.toRequest
  let message :=
    match outcome.result with
    | .ok _ => { message with fields := message.fields.replaceBy outcome.request.fields }
    | .error _ => message
  ⟨outcome.result, message, outcome.calls⟩

end SignedRequest
