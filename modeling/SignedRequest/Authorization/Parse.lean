import SignedRequest.Authorization.Token
import SignedRequest.Signature
import SignedRequest.Text.Blank

/-!
Reading the parameters of a signature. A parameter string is a sequence of `key=value` with commas
between them and perhaps one at the end. No key may occur twice, `keyId` and `signature` must
occur, and parameters without a meaning here are passed over.
-/

namespace SignedRequest.Authorization

/-- Why a parameter string is refused, and the octets that are to blame. -/
inductive ParseError where
  | duplicateParameter (offset length : Nat)
  | invalidTimestamp (offset length : Nat)
  /-- The place is the end of the input. -/
  | missingParameter (name : String) (offset : Nat)
  | unexpectedToken (offset : Nat)
  deriving DecidableEq, Repr

namespace ParseError

def reason : ParseError → String
  | duplicateParameter .. => "duplicate parameter"
  | invalidTimestamp .. => "invalid timestamp"
  | missingParameter name _ => "missing parameter `" ++ name ++ "`"
  | unexpectedToken .. => "unexpected token"

def message (error : ParseError) : String := "Malformed signature parameters: " ++ error.reason

def offset : ParseError → Nat
  | duplicateParameter offset _ => offset
  | invalidTimestamp offset _ => offset
  | missingParameter _ offset => offset
  | unexpectedToken offset => offset

/-- How many octets are to blame; not told of a token out of place. -/
def length? : ParseError → Option Nat
  | duplicateParameter _ length => some length
  | invalidTimestamp _ length => some length
  | missingParameter .. => some 0
  | unexpectedToken .. => none

end ParseError

structure Parameter where
  key : Token
  value : Token

def Parameter.name (parameter : Parameter) : String := String.ofList parameter.key.text

def Parameter.text (parameter : Parameter) : String := String.ofList parameter.value.text

/-- The parameters before the first token out of place, and where that is; `stop` is the length
of the input, where a token is missed if it ends too early. -/
def parametersOf (stop : Nat) : List Token → List Parameter × Option Nat
  | [] => ([], none)
  | key :: rest =>
    if key.kind ≠ .key then ([], some key.offset)
    else
      match rest with
      | [] => ([], some stop)
      | equals :: rest =>
        if equals.kind ≠ .equals then ([], some equals.offset)
        else
          match rest with
          | [] => ([], some stop)
          | value :: rest =>
            if value.kind ≠ .quoted ∧ value.kind ≠ .number then ([], some value.offset)
            else
              match rest with
              | [] => ([⟨key, value⟩], none)
              | comma :: rest =>
                if comma.kind ≠ .comma then ([], some comma.offset)
                else
                  let (parameters, fault) := parametersOf stop rest
                  (⟨key, value⟩ :: parameters, fault)

/-- A whole number of seconds that a point in time can have; a plus sign may precede it. -/
def secondsOf? (cs : List Char) : Option Instant :=
  let digits := if cs.head? = some '+' then cs.drop 1 else cs
  if digits ≠ [] ∧ digits.all Char.isDigit then
    Instant.ofUnixSeconds? (digits.foldl (fun n c => n * 10 + (c.toNat - 48)) 0)
  else none

def isTimestamp (name : String) : Bool := name == "created" || name == "expires"

/-- Checks each parameter in turn; `earlier` holds the names before it. -/
def checkParameters (earlier : List String) : List Parameter → Except ParseError Unit
  | [] => .ok ()
  | parameter :: rest =>
    let name := parameter.name
    if earlier.contains name then
      .error (.duplicateParameter parameter.key.offset parameter.key.length)
    else if isTimestamp name ∧ (secondsOf? parameter.value.text).isNone then
      .error (.invalidTimestamp parameter.value.offset parameter.value.length)
    else checkParameters (name :: earlier) rest

def find? (parameters : List Parameter) (name : String) : Option Parameter :=
  parameters.find? fun parameter => parameter.name == name

/-- The text of a parameter, an empty one counting as absent. -/
def nonEmptyText? (parameters : List Parameter) (name : String) : Option String :=
  ((find? parameters name).map Parameter.text).filter fun text => !text.isEmpty

def timestamp? (parameters : List Parameter) (name : String) : Option Instant :=
  (find? parameters name).bind fun parameter => secondsOf? parameter.value.text

def signatureOf (stop : Nat) (parameters : List Parameter) : Except ParseError Signature :=
  match find? parameters "keyId", find? parameters "signature" with
  | none, _ => .error (.missingParameter "keyId" stop)
  | some _, none => .error (.missingParameter "signature" stop)
  | some keyId, some string =>
    .ok
      { keyId := ⟨keyId.text⟩
        algorithm := nonEmptyText? parameters "algorithm"
        created := timestamp? parameters "created"
        expires := timestamp? parameters "expires"
        headers :=
          match find? parameters "headers" with
          | none => []
          | some headers => (Text.words headers.text).map HeaderName.mk
        string := string.text
        nonce := nonEmptyText? parameters "nonce" }

/-- Reads the parameters of a signature. A parameter that is wrong in itself is blamed before a
token out of place behind it, and both before a parameter that is missing. -/
def parse (input : String) : Except ParseError Signature := do
  let (parameters, fault) := parametersOf input.utf8ByteSize (tokens input)
  checkParameters [] parameters
  match fault with
  | some offset => .error (.unexpectedToken offset)
  | none => signatureOf input.utf8ByteSize parameters

end SignedRequest.Authorization
