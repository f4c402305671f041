import SignedRequest.Text.Case
import SignedRequest.Text.Utf8

/-!
Header fields of a request. A field name is a token in lower case and a field value a string of
octets that cannot break a line; the fields of a request are the list of its lines, in which a name
may occur again.
-/

namespace SignedRequest

/-- The characters of a token: letters, digits and some punctuation, all of them ASCII. -/
def isTokenChar (c : Char) : Bool :=
  c.isAlphanum || "!#$%&'*+-.^_`|~".toList.contains c

/-- Tokens without capitals, of at most 65535 characters. -/
def isFieldName (text : String) : Bool :=
  let cs := text.toList
  !cs.isEmpty && cs.length ≤ 65535 && cs.all fun c => isTokenChar c && !c.isUpper

structure FieldName where
  text : String
  valid : isFieldName text = true
  deriving DecidableEq

namespace FieldName

def ofText? (text : String) : Option FieldName :=
  let lowered := Text.asciiLower text
  if h : isFieldName lowered = true then some ⟨lowered, h⟩ else none

def authorization : FieldName := ⟨"authorization", by decide +kernel⟩
def date : FieldName := ⟨"date", by decide +kernel⟩
def digest : FieldName := ⟨"digest", by decide +kernel⟩

end FieldName

/-- A tab, and every octet but the control characters. -/
def isFieldOctet (b : UInt8) : Bool := b == 9 || (32 ≤ b && b != 127)

structure FieldValue where
  octets : Bytes
  valid : octets.all isFieldOctet = true
  deriving DecidableEq

namespace FieldValue

def ofBytes? (octets : Bytes) : Option FieldValue :=
  if h : octets.all isFieldOctet = true then some ⟨octets, h⟩ else none

def ofText? (text : String) : Option FieldValue := ofBytes? (Bytes.ofText text)

def text (value : FieldValue) : String := Text.Utf8.lossy value.octets

end FieldValue

structure Fields where
  lines : List (FieldName × FieldValue)
  deriving DecidableEq

namespace Fields

def empty : Fields := ⟨[]⟩

instance : Inhabited Fields := ⟨empty⟩

def values (fields : Fields) (name : FieldName) : List FieldValue :=
  (fields.lines.filter fun line => line.1 == name).map Prod.snd

def contains (fields : Fields) (name : FieldName) : Bool :=
  fields.lines.any fun line => line.1 == name

/-- The names in the order of their first lines. -/
def names (fields : Fields) : List FieldName := (fields.lines.map Prod.fst).eraseDups

def append (fields : Fields) (name : FieldName) (value : FieldValue) : Fields :=
  ⟨fields.lines ++ [(name, value)]⟩

def remove (fields : Fields) (name : FieldName) : Fields :=
  ⟨fields.lines.filter fun line => line.1 != name⟩

/-- The first line of the name takes the value and its other lines go; a new name comes last. -/
def set (fields : Fields) (name : FieldName) (value : FieldValue) : Fields :=
  ⟨go fields.lines⟩
where
  go : List (FieldName × FieldValue) → List (FieldName × FieldValue)
    | [] => [(name, value)]
    | line :: rest =>
      if line.1 == name then (name, value) :: rest.filter fun later => later.1 != name
      else line :: go rest

/-- Every name of `source` gets exactly the values it has there. -/
def replaceBy (target source : Fields) : Fields :=
  source.names.foldl
    (fun fields name =>
      (source.values name).foldl (fun fields value => fields.append name value)
        (fields.remove name))
    target

theorem contains_iff (fields : Fields) (name : FieldName) :
    fields.contains name = true ↔ fields.values name ≠ [] := by
  simp [contains, values, List.filter_eq_nil_iff]

theorem values_append (fields : Fields) (name other : FieldName) (value : FieldValue) :
    (fields.append name value).values other =
      fields.values other ++ if name = other then [value] else [] := by
  by_cases h : name = other <;> simp [append, values, h]

theorem values_remove (fields : Fields) (name other : FieldName) :
    (fields.remove name).values other = if name = other then [] else fields.values other := by
  by_cases h : name = other
  · subst h; simp [remove, values]
  · simp only [remove, values, if_neg h, List.filter_filter]
    congr 1
    apply List.filter_congr
    intro line _
    by_cases same : line.1 = other
    · simp [same, Ne.symm h]
    · simp [same]

end Fields
end SignedRequest
