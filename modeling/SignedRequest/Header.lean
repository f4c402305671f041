import SignedRequest.Text.Blank
import SignedRequest.Text.Case
import SignedRequest.Text.Separator

/-!
Names of headers and pseudo-headers, and headers as single lines of text. Names keep their spelling
and are compared with the case of ASCII letters ignored.
-/

namespace SignedRequest

structure HeaderName where
  text : String
  deriving Inhabited, Repr

namespace HeaderName

def requestTarget : HeaderName := ⟨"(request-target)"⟩
def created : HeaderName := ⟨"(created)"⟩
def expires : HeaderName := ⟨"(expires)"⟩
def date : HeaderName := ⟨"date"⟩
def digest : HeaderName := ⟨"digest"⟩

/-- What two names have in common if they are the same name. -/
def key (name : HeaderName) : String := Text.asciiLower name.text

instance : BEq HeaderName := ⟨fun a b => a.key == b.key⟩

theorem beq_iff (a b : HeaderName) : (a == b) = true ↔ a.key = b.key := by
  simp [BEq.beq]

instance : Hashable HeaderName := ⟨fun name => hash name.key⟩

def isBlank (name : HeaderName) : Bool := Text.isAllBlank name.text

def isPseudo (name : HeaderName) : Bool :=
  name.text.toList.head? == some '(' && name.text.toList.getLast? == some ')'

def lower (name : HeaderName) : String := Text.lower name.text

def unique (names : List HeaderName) : List HeaderName := go [] names
where
  go (seen : List HeaderName) : List HeaderName → List HeaderName
    | [] => []
    | name :: rest => if seen.contains name then go seen rest else name :: go (name :: seen) rest

end HeaderName

/-- A name with its values; headers are equal if their names are. -/
structure Header where
  name : HeaderName
  values : List String

namespace Header

/-- Values are trimmed, and those with nothing left are dropped. -/
def ofValues (name : HeaderName) (values : List String) : Header :=
  ⟨name, (values.map Text.trim).filter fun value => !value.isEmpty⟩

instance : BEq Header := ⟨fun a b => a.name == b.name⟩

def line (header : Header) : String := header.name.lower ++ ": " ++ ", ".intercalate header.values

/-- A header read from a line with exactly one colon that a space follows. -/
def ofLine? (line : String) : Option Header :=
  match Text.pieces ": " line with
  | [name, values] =>
    if Text.isAllBlank name then none else some (ofValues ⟨name⟩ (Text.pieces ", " values))
  | _ => none

def malformed (line : String) : String :=
  "'" ++ line ++ "' is not a valid string representation of a header"

end Header
end SignedRequest
