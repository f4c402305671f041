import SignedRequest.Signature
import SignedRequest.Text.Separator

/-!
How a signature is written into the authorization header: a scheme, a space and the parameters,
which a comma separates. Numbers stand bare, texts in double quotes.
-/

namespace SignedRequest.Authorization

def defaultScheme : String := "Signature"

def quoted (key value : String) : String := key ++ "=\"" ++ value ++ "\""

def bare (key : String) (value : Nat) : String := key ++ "=" ++ toString value

def headerList (names : List HeaderName) : String := " ".intercalate (names.map HeaderName.lower)

def parameters (signature : Signature) : List String :=
  [quoted "keyId" signature.keyId.text] ++
    (signature.algorithm.map (quoted "algorithm")).toList ++
    (signature.created.map fun time => bare "created" time.unixSeconds).toList ++
    (signature.expires.map fun time => bare "expires" time.unixSeconds).toList ++
    [quoted "headers" (headerList signature.headers)] ++
    (signature.nonce.map (quoted "nonce")).toList ++
    [quoted "signature" signature.string]

def render (signature : Signature) : String := ",".intercalate (parameters signature)

def headerValue (scheme : String) (signature : Signature) : String :=
  scheme ++ " " ++ render signature

/-- What follows the scheme in a header value, if it is the expected one in any case. -/
def stripScheme? (value scheme : String) : Option String := do
  let (found, rest) ← Text.cut? ' ' (Text.trim value)
  if Text.sameAscii found scheme then some (Text.trim rest) else none

end SignedRequest.Authorization
