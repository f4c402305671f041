import SignedRequest.Error
import SignedRequest.Table
import SignedRequest.Text.Blank

/-!
Which headers a signature must list and which it must not, by the family of its algorithm. The
request target must be listed whatever the family, and a family without an entry is refused.
-/

namespace SignedRequest

/-- The token that leaves the choice of the algorithm to the key. -/
def hs2019 : String := "hs2019"

structure HeaderRequirement where
  required : List HeaderName
  forbidden : List HeaderName
  deriving Inhabited

structure HeaderPolicy where
  families : Table String HeaderRequirement

namespace HeaderPolicy

def empty : HeaderPolicy := ⟨.empty⟩

/-- Adds a family in any case, or replaces what is required of it. -/
def withFamily (policy : HeaderPolicy) (family : String) (requirement : HeaderRequirement) :
    HeaderPolicy :=
  ⟨policy.families.put (Text.lower family) requirement⟩

/-- What precedes the first hyphen of an algorithm identifier, in lower case; without an
identifier, that of the token that leaves the choice to the key. -/
def familyOf (identifier : Option String) : String :=
  let trimmed := Text.trim (identifier.getD "")
  if trimmed.isEmpty then hs2019
  else Text.lower (String.ofList (trimmed.toList.takeWhile (· != '-')))

def requirement (policy : HeaderPolicy) (family : String) :
    Except ValidationError HeaderRequirement :=
  match policy.families.get? (Text.lower family) with
  | some requirement => .ok requirement
  | none => .error (.unknownAlgorithmFamily family)

def requirementFor (policy : HeaderPolicy) (identifier : Option String) :
    Except ValidationError HeaderRequirement :=
  policy.requirement (familyOf identifier)

/-- Signatures that name their algorithm sign the date and must not sign the times they claim;
those that leave it to the key must sign these times. -/
def standard : HeaderPolicy :=
  let dated : HeaderRequirement := ⟨[.date], [.created, .expires]⟩
  empty.withFamily "rsa" dated |>.withFamily "hmac" dated |>.withFamily "ecdsa" dated
    |>.withFamily hs2019 ⟨[.created, .expires], []⟩

instance : Inhabited HeaderPolicy := ⟨standard⟩

end HeaderPolicy
end SignedRequest
