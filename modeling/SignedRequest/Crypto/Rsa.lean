import SignedRequest.Crypto.Modular
import SignedRequest.Crypto.Pkcs8

/-!
RSA signatures with the deterministic padding of PKCS #1, version 1.5. A private key is accepted if
its numbers fit together as far as that can be told without factoring; a signature made with
it is checked with the public key before it is given out.
-/

namespace SignedRequest.Rsa

def bitLength (n : Nat) : Nat := if n = 0 then 0 else n.log2 + 1

def octetLength (n : Nat) : Nat := (bitLength n + 7) / 8

structure PublicKey where
  modulus : Nat
  exponent : Nat
  deriving DecidableEq

/-- Sizes are in bits; a modulus may miss the smallest one by less than an octet. -/
structure Limits where
  smallestModulus : Nat
  largestModulus : Nat
  smallestExponent : Nat

def signingLimits : Limits := ⟨2048, 4096, 65537⟩

def verificationLimits : Limits := ⟨2048, 8192, 3⟩

def PublicKey.isWithin (key : PublicKey) (limits : Limits) : Bool :=
  key.modulus % 2 == 1 && limits.smallestModulus ≤ 8 * octetLength key.modulus &&
    bitLength key.modulus ≤ limits.largestModulus && key.exponent % 2 == 1 &&
    limits.smallestExponent ≤ key.exponent && key.exponent < 0x200000000

def PublicKey.size (key : PublicKey) : Nat := octetLength key.modulus

def PublicKey.toDer (key : PublicKey) : Bytes :=
  Der.write Der.sequenceTag (Der.writeNatural key.modulus ++ Der.writeNatural key.exponent)

def PublicKey.ofDer? (der : Bytes) : Option PublicKey := do
  let fields ← Der.only? Pkcs8.lengthWidth Der.sequenceTag der
  let (modulus, fields) ← Der.positive? Pkcs8.lengthWidth fields
  let (exponent, fields) ← Der.positive? Pkcs8.lengthWidth fields
  if fields = [] then some ⟨modulus, exponent⟩ else none

def padded (size : Nat) (hashName hash : Bytes) : Bytes :=
  let info := hashName ++ hash
  0x00 :: 0x01 :: List.replicate (size - info.length - 3) 0xff ++ 0x00 :: info

def PublicKey.verify (key : PublicKey) (hashName hash signature : Bytes) : Bool :=
  let s := Bytes.toNat signature
  signature.length == key.size && 0 < s && s < key.modulus &&
    Bytes.ofNat key.size (Modular.power key.modulus s key.exponent) == padded key.size hashName hash

structure PrivateKey where
  publicKey : PublicKey
  prime1 : Nat
  prime2 : Nat
  exponent1 : Nat
  exponent2 : Nat
  coefficient : Nat

def isBalancedFactor (modulus factor : Nat) : Bool :=
  factor % 2 == 1 && bitLength factor == (bitLength modulus + 1) / 2 &&
    bitLength factor % 512 == 0

def PrivateKey.isConsistent (key : PrivateKey) (d : Nat) : Bool :=
  let n := key.publicKey.modulus
  key.publicKey.isWithin signingLimits &&
    isBalancedFactor n key.prime1 && isBalancedFactor n key.prime2 &&
    key.prime1 * key.prime2 % n == 0 &&
    d % 2 == 1 && (bitLength n + 1) / 2 < bitLength d && d < n &&
    key.exponent1 % 2 == 1 && key.exponent1 < key.prime1 &&
    key.exponent2 % 2 == 1 && key.exponent2 < key.prime2 &&
    key.coefficient < key.prime1 && key.coefficient * key.prime2 % key.prime1 == 1

def PrivateKey.ofDer? (der : Bytes) : Option PrivateKey := do
  let width := Pkcs8.lengthWidth
  let fields ← Der.only? width Der.sequenceTag der
  let (version, fields) ← Der.integer? width fields
  if version ≠ 0 then none
  let (n, fields) ← Der.integer? width fields
  let (e, fields) ← Der.integer? width fields
  let (d, fields) ← Der.integer? width fields
  let (p, fields) ← Der.integer? width fields
  let (q, fields) ← Der.integer? width fields
  let (dp, fields) ← Der.integer? width fields
  let (dq, fields) ← Der.integer? width fields
  let (qInv, fields) ← Der.integer? width fields
  let key : PrivateKey := ⟨⟨n, e⟩, p, q, dp, dq, qInv⟩
  if fields = [] ∧ key.isConsistent d then some key else none

def algorithmId : Bytes :=
  [0x06, 0x09, 0x2a, 0x86, 0x48, 0x86, 0xf7, 0x0d, 0x01, 0x01, 0x01, 0x05, 0x00]

def PrivateKey.ofPkcs8? (document : Bytes) : Option PrivateKey := do
  PrivateKey.ofDer? (← Pkcs8.unwrap? algorithmId document)

/-- The number whose `exponent`-th power is `m`, from its residues modulo the two primes. -/
def PrivateKey.root (key : PrivateKey) (m : Nat) : Nat :=
  let r1 := Modular.power key.prime1 m key.exponent1
  let r2 := Modular.power key.prime2 m key.exponent2
  r2 + key.prime2 * (Modular.sub key.prime1 r1 r2 * key.coefficient % key.prime1)

def PrivateKey.sign? (key : PrivateKey) (hashName hash : Bytes) : Option Bytes :=
  let m := Bytes.toNat (padded key.publicKey.size hashName hash)
  let s := key.root m
  if Modular.power key.publicKey.modulus s key.publicKey.exponent = m then
    some (Bytes.ofNat key.publicKey.size s)
  else none

end SignedRequest.Rsa
