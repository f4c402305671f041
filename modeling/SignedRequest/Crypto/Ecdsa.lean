import SignedRequest.Crypto.Curve
import SignedRequest.Crypto.Pkcs8

/-!
ECDSA with signatures in ASN.1 form. The secret number of a signature is drawn by the caller, who
gives as many draws as it takes to find one that serves.
-/

namespace SignedRequest.Ecdsa

structure PrivateKey where
  secret : Nat
  publicPoint : Bytes

/-- The content of a curve's name, tag and length included. -/
structure Naming where
  curve : Curve
  name : Bytes

/-- The name of elliptic-curve keys, tag and length included. -/
def keyName : Bytes := [0x06, 0x07, 0x2a, 0x86, 0x48, 0xce, 0x3d, 0x02, 0x01]

def p256 : Naming := ⟨.p256, [0x06, 0x08, 0x2a, 0x86, 0x48, 0xce, 0x3d, 0x03, 0x01, 0x07]⟩

def p384 : Naming := ⟨.p384, [0x06, 0x05, 0x2b, 0x81, 0x04, 0x00, 0x22]⟩

def parametersTag : UInt8 := 0xA0
def publicKeyTag : UInt8 := 0xA1

/-- The fields of a wrapped key after an optional name of the curve, which must be the right one. -/
def skipCurveName? (naming : Naming) (bytes : Bytes) : Option Bytes :=
  match bytes with
  | tag :: _ =>
    if tag = parametersTag then do
      let (found, rest) ← Der.tagged? Pkcs8.lengthWidth parametersTag bytes
      if found = naming.name then some rest else none
    else some bytes
  | [] => some []

def PrivateKey.ofPkcs8? (naming : Naming) (document : Bytes) : Option PrivateKey := do
  let width := Pkcs8.lengthWidth
  let wrapped ← Pkcs8.unwrap? (keyName ++ naming.name) document
  let fields ← Der.only? width Der.sequenceTag wrapped
  let (version, fields) ← Der.integer? width fields
  if version ≠ 1 then none
  let (octets, fields) ← Der.tagged? width Der.octetStringTag fields
  let fields ← skipCurveName? naming fields
  let tagged ← Der.only? width publicKeyTag fields
  let bits ← Der.only? width Der.bitStringTag tagged
  let point ← Der.wholeOctets? bits
  let curve := naming.curve
  let secret := Bytes.toNat octets
  if octets.length ≠ curve.size ∨ secret = 0 ∨ curve.order ≤ secret then none
  let (x, y) ← curve.coordinates? (curve.multiple secret curve.generator)
  if curve.encodePoint x y = point then some ⟨secret, point⟩ else none

def decodeSignature? (curve : Curve) (signature : Bytes) : Option (Nat × Nat) := do
  let fields ← Der.only? Pkcs8.lengthWidth Der.sequenceTag signature
  let (r, fields) ← Der.positive? Pkcs8.lengthWidth fields
  let (s, fields) ← Der.positive? Pkcs8.lengthWidth fields
  if fields = [] ∧ r < curve.order ∧ s < curve.order then some (r, s) else none

def encodeSignature (r s : Nat) : Bytes :=
  Der.write Der.sequenceTag (Der.writeNatural r ++ Der.writeNatural s)

def verify (curve : Curve) (point hash signature : Bytes) : Bool :=
  match curve.decodePoint? point, decodeSignature? curve signature with
  | some (x, y), some (r, s) =>
    let n := curve.order
    let w := Modular.inverse n s
    let ofGenerator := curve.multiple (Bytes.toNat hash * w % n) curve.generator
    let ofKey := curve.multiple (r * w % n) ⟨x, y, 1⟩
    match curve.coordinates? (curve.add ofGenerator ofKey) with
    | some (v, _) => v % n == r
    | none => false
  | _, _ => false

/-- The signature made with the secret number `k`, unless that number does not serve. -/
def signWith? (curve : Curve) (secret : Nat) (hash : Bytes) (k : Nat) : Option Bytes := do
  let n := curve.order
  if k = 0 ∨ n ≤ k then none
  let (x, _) ← curve.coordinates? (curve.multiple k curve.generator)
  let r := x % n
  let s := Modular.inverse n k * (Bytes.toNat hash + r * secret) % n
  if r = 0 ∨ s = 0 then none else some (encodeSignature r s)

/-- The signature made with the first of the drawn numbers that serves. -/
def sign? (curve : Curve) (secret : Nat) (hash : Bytes) (draws : List Nat) : Option Bytes :=
  draws.findSome? (signWith? curve secret hash)

end SignedRequest.Ecdsa
