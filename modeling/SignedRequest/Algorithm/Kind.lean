import SignedRequest.Text.Case

/-!
The families of signature algorithms. A family is named in any case, and its token is in lower
case.
-/

namespace SignedRequest

inductive AlgorithmKind where
  | rsa
  | hmac
  | ecdsa
  | custom (name : String)
  deriving DecidableEq, Inhabited, Repr

namespace AlgorithmKind

def name : AlgorithmKind → String
  | rsa => "rsa"
  | hmac => "hmac"
  | ecdsa => "ecdsa"
  | custom name => Text.lower name

def ofName (text : String) : AlgorithmKind :=
  let lowered := Text.lower text
  if lowered = "rsa" then rsa
  else if lowered = "hmac" then hmac
  else if lowered = "ecdsa" then ecdsa
  else custom lowered

end AlgorithmKind
end SignedRequest
