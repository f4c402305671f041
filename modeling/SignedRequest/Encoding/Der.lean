import SignedRequest.Bytes

/-!
Tagged values of the Distinguished Encoding Rules. A value is a tag octet, a length in its shortest
form and that many octets; how many octets a length may take is left to the caller.
-/

namespace SignedRequest.Der

def integerTag : UInt8 := 0x02
def bitStringTag : UInt8 := 0x03
def octetStringTag : UInt8 := 0x04
def objectTag : UInt8 := 0x06
def sequenceTag : UInt8 := 0x30

/-- A length and what follows it. Beyond 127 a first octet counts those that hold the length. -/
def length? (widest : Nat) : Bytes → Option (Nat × Bytes)
  | [] => none
  | first :: rest =>
    if first < 0x80 then some (first.toNat, rest)
    else
      let width := first.toNat - 0x80
      let size := Bytes.toNat (rest.take width)
      if 0 < width ∧ width ≤ widest ∧ width ≤ rest.length ∧
          (if width = 1 then 0x80 else 0x01) ≤ rest.headD 0 then
        some (size, rest.drop width)
      else none

def value? (widest : Nat) : Bytes → Option (UInt8 × Bytes × Bytes)
  | [] => none
  | tag :: rest => do
    let (size, content) ← length? widest rest
    if size ≤ content.length then some (tag, content.take size, content.drop size) else none

def tagged? (widest : Nat) (tag : UInt8) (bytes : Bytes) : Option (Bytes × Bytes) := do
  let (found, content, rest) ← value? widest bytes
  if found = tag then some (content, rest) else none

def only? (widest : Nat) (tag : UInt8) (bytes : Bytes) : Option Bytes := do
  let (content, rest) ← tagged? widest tag bytes
  if rest = [] then some content else none

/-- The number that an integer's content writes: not negative, and in its shortest form. -/
def natural? : Bytes → Option Nat
  | [] => none
  | [0] => some 0
  | 0 :: next :: rest => if next < 0x80 then none else some (Bytes.toNat (next :: rest))
  | first :: rest => if first < 0x80 then some (Bytes.toNat (first :: rest)) else none

def integer? (widest : Nat) (bytes : Bytes) : Option (Nat × Bytes) := do
  let (content, rest) ← tagged? widest integerTag bytes
  let n ← natural? content
  some (n, rest)

def positive? (widest : Nat) (bytes : Bytes) : Option (Nat × Bytes) := do
  let (n, rest) ← integer? widest bytes
  if n = 0 then none else some (n, rest)

def wholeOctets? : Bytes → Option Bytes
  | 0 :: octets => some octets
  | _ => none

def lengthOctets (size : Nat) : Bytes :=
  if size < 128 then [UInt8.ofNat size]
  else
    let octets := Bytes.ofNatMinimal size
    UInt8.ofNat (0x80 + octets.length) :: octets

def write (tag : UInt8) (content : Bytes) : Bytes := tag :: lengthOctets content.length ++ content

/-- A leading zero keeps a number with a high first bit from being read as negative. -/
def writeNatural (n : Nat) : Bytes :=
  match Bytes.ofNatMinimal n with
  | [] => write integerTag [0]
  | first :: rest =>
    write integerTag (if first < 0x80 then first :: rest else 0 :: first :: rest)

end SignedRequest.Der
