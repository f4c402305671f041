import SignedRequest.Authorization.Parse
import SignedRequest.CommandLine.Arguments
import SignedRequest.Configuration.Signing
import SignedRequest.Configuration.Toml.Document
import SignedRequest.Configuration.Verification
import SignedRequest.Signing.Signer
import SignedRequest.Verification.ClientCache

/-!
What the commands do, given the files they name, the time, and what is drawn at random: each prints
lines or fails.
-/

namespace SignedRequest.CommandLine

structure Surroundings where
  file? : String → Option Bytes
  now : Option Instant
  draws : Draws

inductive Failure where
  | unreadableFile (path : String)
  | malformedConfiguration (path : String)
  | invalidMethod (method : String)
  | invalidUrl (url : String)
  | malformedHeader (line : String)
  | malformedParameters (error : Authorization.ParseError)
  | refused (error : Error)

def Failure.message : Failure → String
  | unreadableFile path => "Cannot read " ++ path
  | malformedConfiguration path => "Malformed configuration in " ++ path
  | invalidMethod method => "Invalid method " ++ method
  | invalidUrl url => "Invalid URL " ++ url
  | malformedHeader line => Header.malformed line
  | malformedParameters error => error.message
  | refused error => error.message?.getD "The key or the clock cannot be used"

def orFail {α : Type} (failure : Failure) : Option α → Except Failure α
  | some a => .ok a
  | none => .error failure

def loadConfiguration {α : Type} (surroundings : Surroundings)
    (read : Configuration.Format → Configuration.Value → Option α) (path : String) :
    Except Failure α := do
  let octets ← orFail (.unreadableFile path) (surroundings.file? path)
  let text ← orFail (.unreadableFile path) (Text.Utf8.strict? octets)
  orFail (.malformedConfiguration path)
    ((Configuration.Toml.parse? text).bind (read Configuration.Format.toml))

/-- Adds the values of a header line, each as a line of its own. -/
def addHeader (request : Request) (line : String) : Except Failure Request := do
  let failure := Failure.malformedHeader line
  let header ← orFail failure (Header.ofLine? line)
  let name ← orFail failure (FieldName.ofText? header.name.text)
  let values ← orFail failure (header.values.mapM FieldValue.ofText?)
  .ok (values.foldl (fun request value => request.appendField name value) request)

def buildRequest (surroundings : Surroundings) (options : RequestOptions) :
    Except Failure Request := do
  let method ← orFail (.invalidMethod options.method) (Method.ofText? options.method)
  let target ← orFail (.invalidUrl options.url) (Target.ofText? options.url)
  let request ← options.headers.foldlM addHeader (Request.ofMethodAndTarget method target)
  match options.body with
  | none => .ok request
  | some path => do
    let body ← orFail (.unreadableFile path) (surroundings.file? path)
    .ok { request with body := some body }

def describe (signature : Signature) : List String :=
  ["key id:    " ++ signature.keyId.text] ++
    (signature.algorithm.map fun algorithm => "algorithm: " ++ algorithm).toList ++
    (signature.created.map fun time => "created:   " ++ toString time.unixSeconds).toList ++
    (signature.expires.map fun time => "expires:   " ++ toString time.unixSeconds).toList ++
    ["headers:   " ++ " ".intercalate (signature.headers.map HeaderName.text)] ++
    (signature.nonce.map fun nonce => "nonce:     " ++ nonce).toList

def runParse (parameters : String) : Except Failure (List String) := do
  let signature ← (Authorization.parse parameters).mapError Failure.malformedParameters
  .ok ("✅ Parameters are valid! (^///^)" :: describe signature)

/-- The lines of a name, those aside whose value is the first that the name had before. -/
def changedLines (before after : Fields) (name : FieldName) : List String :=
  ((after.values name).filter fun value => (before.values name).head? != some value).map
    fun value => name.text ++ ": " ++ value.text

def runSign (surroundings : Surroundings) (path : String) (options : RequestOptions) :
    Except Failure (List String) := do
  let configuration ← loadConfiguration surroundings SigningConfiguration.ofValue? path
  let settings ← configuration.toSettings.mapError Failure.refused
  let request ← buildRequest surroundings options
  let signer : RequestSigner := { settings }
  let outcome := signer.sign surroundings.now surroundings.draws request
  let _ ← outcome.result.mapError Failure.refused
  let after := outcome.request.fields
  .ok ("✅ Request signed! (^///^)" ::
    after.names.flatMap (changedLines request.fields after))

def report : VerificationOutcome → List String
  | .success client _ =>
    "✅ Signature is valid! (^///^)" ::
      client.allClaims.map fun claim => claim.name ++ ": " ++ claim.value
  | .failure error _ _ => ["❌ Signature is invalid (┬┬﹏┬┬)", error.message]

def runVerify (surroundings : Surroundings) (path : String) (options : RequestOptions) :
    Except Failure (List String) := do
  let configuration ← loadConfiguration surroundings VerificationConfiguration.ofValue? path
  let clients ← (configuration.toClients .standard).mapError Failure.refused
  let table ← (ClientTable.ofClients clients).mapError Failure.refused
  let request ← buildRequest surroundings options
  let verifier : RequestVerifier (ClientTable × ClientCache) NonceTable :=
    { clients := ClientStore.inMemory.cached configuration.cacheLifetime
      nonces := .inMemory
      options := configuration.options }
  let (result, _) := verifier.verify surroundings.now request (table, .empty) .empty
  let outcome ← result.mapError Failure.refused
  .ok (report outcome)

def run (surroundings : Surroundings) : Command → Except Failure (List String)
  | .parse parameters => runParse parameters
  | .sign path options => runSign surroundings path options
  | .verify path options => runVerify surroundings path options

structure Report where
  exitCode : UInt32
  lines : List String
  complaints : List String

def version : String := "http-message-signing-cli 0.1.0"

def usage : List String :=
  ["Sign and verify HTTP requests", "",
    "Usage: parse <PARAMETERS>",
    "       sign --config <CONFIG> --url <URL> [OPTIONS]",
    "       verify --config <CONFIG> --url <URL> [OPTIONS]", "",
    "Options:",
    "  -X, --method <METHOD>  HTTP method of the request [default: GET]",
    "  -H, --header <HEADER>  Header of the request, formatted as \"name: value\"",
    "  -b, --body <BODY>      File to read the request body from"]

/-- Misuse of the arguments is told apart from failure by the exit code. -/
def respond (surroundings : Surroundings) (arguments : List String) : Report :=
  match Command.ofArguments arguments with
  | .error .help => ⟨0, usage, []⟩
  | .error .version => ⟨0, [version], []⟩
  | .error .misuse => ⟨2, [], usage⟩
  | .ok command =>
    match run surroundings command with
    | .ok lines => ⟨0, lines, []⟩
    | .error failure => ⟨1, [], [failure.message]⟩

end SignedRequest.CommandLine
