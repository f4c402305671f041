import SignedRequest.Bytes
import SignedRequest.Text.Utf8

/-!
Percent encoding of URIs. A percent sign and two hexadecimal digits stand for one octet; a percent
sign that two such digits do not follow stands for itself.
-/

namespace SignedRequest.Percent

def hexDigit? (b : UInt8) : Option UInt8 :=
  if 48 ≤ b && b ≤ 57 then some (b - 48)
  else if 65 ≤ b && b ≤ 70 then some (b - 55)
  else if 97 ≤ b && b ≤ 102 then some (b - 87)
  else none

/-- The octet that two hexadecimal digits at the front of `rest` write. -/
def escape? (rest : Bytes) : Option UInt8 :=
  match rest with
  | high :: low :: _ => do
    let h ← hexDigit? high
    let l ← hexDigit? low
    some (h * 16 + l)
  | _ => none

def decode (bytes : Bytes) : Bytes :=
  match bytes with
  | [] => []
  | b :: rest =>
    match if b = 37 then escape? rest else none with
    | some octet => octet :: decode (rest.drop 2)
    | none => b :: decode rest
termination_by bytes.length
decreasing_by all_goals grind

def decodeText (text : String) : String := Text.Utf8.lossy (decode (Bytes.ofText text))

end SignedRequest.Percent
