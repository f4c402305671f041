import SignedRequest.Encoding.Der

/-!
Private keys wrapped with the name of their algorithm, in the first version of that format: the
algorithm identifier must be exactly the one expected, and attributes are passed over.
-/

namespace SignedRequest.Pkcs8

/-- Lengths of up to two octets, which is more than any supported key needs. -/
def lengthWidth : Nat := 2

def attributesTag : UInt8 := 0xA0

/-- The content of a sequence without the attributes it may begin with. -/
def skipAttributes? (bytes : Bytes) : Option Bytes :=
  match bytes with
  | tag :: _ =>
    if tag = attributesTag then (Der.tagged? lengthWidth attributesTag bytes).map Prod.snd
    else some bytes
  | [] => some []

def unwrap? (algorithm document : Bytes) : Option Bytes := do
  let fields ← Der.only? lengthWidth Der.sequenceTag document
  let (version, fields) ← Der.integer? lengthWidth fields
  if version ≠ 0 then none
  let (found, fields) ← Der.tagged? lengthWidth Der.sequenceTag fields
  if found ≠ algorithm then none
  let (key, fields) ← Der.tagged? lengthWidth Der.octetStringTag fields
  let fields ← skipAttributes? fields
  if fields = [] then some key else none

end SignedRequest.Pkcs8
