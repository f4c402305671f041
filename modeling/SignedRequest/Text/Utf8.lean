import SignedRequest.Bytes

/-!
Text read from octets that need not be UTF-8. Each maximal beginning of an ill-formed sequence
becomes one replacement character, so that reading never fails.
-/

namespace SignedRequest.Text.Utf8

def replacement : Char := '\uFFFD'

def isContinuation (b : UInt8) : Bool := 0x80 ≤ b && b ≤ 0xBF

/-- The octets allowed after a leading octet of a sequence of three or four: they exclude long
forms, surrogates and numbers above the last code point. -/
def isSecond (lead second : UInt8) : Bool :=
  if lead == 0xE0 then 0xA0 ≤ second && second ≤ 0xBF
  else if lead == 0xED then 0x80 ≤ second && second ≤ 0x9F
  else if lead == 0xF0 then 0x90 ≤ second && second ≤ 0xBF
  else if lead == 0xF4 then 0x80 ≤ second && second ≤ 0x8F
  else isContinuation second

def payload (b : UInt8) : Nat := b.toNat % 64

/-- The first character of `lead :: rest`, and how many octets of `rest` belong to it. -/
def first (lead : UInt8) (rest : Bytes) : Option Char × Nat :=
  if lead < 0x80 then (some (Char.ofNat lead.toNat), 0)
  else if 0xC2 ≤ lead && lead ≤ 0xDF then
    match rest with
    | b :: _ =>
      if isContinuation b then (some (Char.ofNat (lead.toNat % 32 * 64 + payload b)), 1)
      else (none, 0)
    | [] => (none, 0)
  else if 0xE0 ≤ lead && lead ≤ 0xEF then
    match rest with
    | b :: c :: _ =>
      if !isSecond lead b then (none, 0)
      else if !isContinuation c then (none, 1)
      else (some (Char.ofNat ((lead.toNat % 16 * 64 + payload b) * 64 + payload c)), 2)
    | [b] => (none, if isSecond lead b then 1 else 0)
    | [] => (none, 0)
  else if 0xF0 ≤ lead && lead ≤ 0xF4 then
    match rest with
    | b :: c :: d :: _ =>
      if !isSecond lead b then (none, 0)
      else if !isContinuation c then (none, 1)
      else if !isContinuation d then (none, 2)
      else
        (some (Char.ofNat
          (((lead.toNat % 8 * 64 + payload b) * 64 + payload c) * 64 + payload d)), 3)
    | [b, c] => (none, if isSecond lead b then if isContinuation c then 2 else 1 else 0)
    | [b] => (none, if isSecond lead b then 1 else 0)
    | [] => (none, 0)
  else (none, 0)

def decode (bytes : Bytes) : List (Option Char) :=
  match bytes with
  | [] => []
  | lead :: rest =>
    let head := first lead rest
    head.1 :: decode (rest.drop head.2)
termination_by bytes.length
decreasing_by grind

def lossy (bytes : Bytes) : String :=
  String.ofList ((decode bytes).map fun c => c.getD replacement)

def strict? (bytes : Bytes) : Option String :=
  let chars := decode bytes
  if chars.all Option.isSome then some (String.ofList (chars.filterMap id)) else none

end SignedRequest.Text.Utf8
