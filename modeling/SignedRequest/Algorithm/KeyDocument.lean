import SignedRequest.Crypto.Ecdsa
import SignedRequest.Crypto.Rsa
import SignedRequest.Encoding.Pem
import SignedRequest.Error

/-!
Keys in textual documents. A private key stands for itself under the label of RSA, or is wrapped
with the name of its algorithm; a public key likewise.
-/

namespace SignedRequest

inductive NamedCurve where
  | p256
  | p384
  deriving DecidableEq

def NamedCurve.naming : NamedCurve → Ecdsa.Naming
  | p256 => Ecdsa.p256
  | p384 => Ecdsa.p384

def NamedCurve.curve (named : NamedCurve) : Curve := named.naming.curve

inductive PrivateKey where
  | ecdsa (curve : NamedCurve) (key : Ecdsa.PrivateKey)
  | rsa (key : Rsa.PrivateKey)

/-- A public key in the form that its algorithm reads, which may turn out not to be one. -/
inductive PublicKey where
  | ecdsa (curve : NamedCurve) (octets : Bytes)
  | rsa (octets : Bytes)

namespace KeyDocument

/-- Lengths of up to four octets. -/
def lengthWidth : Nat := 4

/-- The tags of values in a document: those of the universal types in use, and all of the other
classes but the ones with a number of their own. -/
def isKnownTag (tag : UInt8) : Bool :=
  if tag < 0x40 then
    [0x01, 0x02, 0x03, 0x04, 0x05, 0x06, 0x09, 0x0A, 0x0C, 0x12, 0x13, 0x14, 0x15, 0x16, 0x17, 0x18,
      0x1A, 0x1D, 0x1E, 0x30, 0x31].contains tag
  else tag &&& 0x1F != 0x1F

def value? (bytes : Bytes) : Option (UInt8 × Bytes × Bytes) := do
  let (tag, content, rest) ← Der.value? lengthWidth bytes
  if isKnownTag tag then some (tag, content, rest) else none

/-- The octets that write one number of an object identifier end with one below 128. Beyond five
octets a further one must be below 16. -/
def arcsAreWellFormed (count : Nat) : Bytes → Bool
  | [] => count == 0
  | b :: rest =>
    if 5 ≤ count ∧ 16 ≤ b then false
    else arcsAreWellFormed (if b < 128 then 0 else count + 1) rest

def isObjectId (content : Bytes) : Bool :=
  match content with
  | [] => false
  | root :: arcs =>
    3 ≤ content.length && content.length ≤ 39 && root < 120 && arcsAreWellFormed 0 arcs

/-- The name of an algorithm and the value that describes it further. -/
structure AlgorithmId where
  name : Bytes
  parameters : Option (UInt8 × Bytes)

def algorithmId? (content : Bytes) : Option AlgorithmId := do
  let (name, rest) ← Der.tagged? lengthWidth Der.objectTag content
  if !isObjectId name then none
  if rest.isEmpty then some ⟨name, none⟩
  else do
    let (tag, parameters, rest) ← value? rest
    if rest.isEmpty then some ⟨name, some (tag, parameters)⟩ else none

def rsaName : Bytes := [0x2a, 0x86, 0x48, 0x86, 0xf7, 0x0d, 0x01, 0x01, 0x01]
def ecdsaName : Bytes := [0x2a, 0x86, 0x48, 0xce, 0x3d, 0x02, 0x01]
def p256Name : Bytes := [0x2a, 0x86, 0x48, 0xce, 0x3d, 0x03, 0x01, 0x07]
def p384Name : Bytes := [0x2b, 0x81, 0x04, 0x00, 0x22]

def curveOf (algorithm : AlgorithmId) : Except KeyError NamedCurve :=
  match algorithm.parameters with
  | some (tag, name) =>
    if tag ≠ Der.objectTag ∨ !isObjectId name then .error .malformedKey
    else if name = p256Name then .ok .p256
    else if name = p384Name then .ok .p384
    else .error .unsupportedCurve
  | none => .error .malformedKey

def bits? (content : Bytes) : Option (UInt8 × Bytes) :=
  match content with
  | [] => none
  | unused :: octets =>
    if 7 < unused ∨ (unused ≠ 0 ∧ octets = []) then none else some (unused, octets)

def publicKeyTag : UInt8 := 0x81

def isContextTag (tag : UInt8) : Bool := 0x80 ≤ tag && tag < 0xC0

/-- The fields from the public key on; the attributes before it have a smaller number. -/
def skipAttributes? (fields : Bytes) : Option Bytes :=
  match fields.head? with
  | none => some []
  | some tag =>
    if !isKnownTag tag then none
    else if isContextTag tag && tag &&& 0x1F == 0 then
      match value? fields with
      | none => none
      | some (_, _, rest) =>
        if _shorter : rest.length < fields.length then skipAttributes? rest else none
    else some fields
termination_by fields.length

def isSkippable (fields : Bytes) : Bool :=
  if fields.isEmpty then true
  else
    match value? fields with
    | none => false
    | some (tag, content, rest) =>
      if _shorter : rest.length < fields.length then
        isContextTag tag && tag &&& 0x20 != 0 &&
          (value? content).any (fun inner => inner.2.2.isEmpty) && isSkippable rest
      else false
termination_by fields.length

structure WrappedKey where
  algorithm : AlgorithmId
  key : Bytes

/-- A private key wrapped with the name of its algorithm. The second version of the format, and no
other, has the public key behind it. -/
def wrappedPrivateKey? (document : Bytes) : Option WrappedKey := do
  let fields ← Der.only? lengthWidth Der.sequenceTag document
  let (version, fields) ← Der.integer? lengthWidth fields
  if 1 < version then none
  let (algorithm, fields) ← Der.tagged? lengthWidth Der.sequenceTag fields
  let algorithm ← algorithmId? algorithm
  let (key, fields) ← Der.tagged? lengthWidth Der.octetStringTag fields
  let fields ← skipAttributes? fields
  let hasPublicKey := (fields.head?.any fun tag => isContextTag tag && tag &&& 0x1F == 1)
  if hasPublicKey ≠ (version = 1 : Bool) then none
  let fields ←
    if hasPublicKey then do
      let (bits, fields) ← Der.tagged? lengthWidth publicKeyTag fields
      let (unused, _) ← bits? bits
      if unused = 0 then some fields else none
    else some fields
  if isSkippable fields then some ⟨algorithm, key⟩ else none

/-- A public key wrapped with the name of its algorithm; its octets are missing if they do not end
with a whole one. -/
def wrappedPublicKey? (document : Bytes) : Option (AlgorithmId × Option Bytes) := do
  let fields ← Der.only? lengthWidth Der.sequenceTag document
  let (algorithm, fields) ← Der.tagged? lengthWidth Der.sequenceTag fields
  let algorithm ← algorithmId? algorithm
  let bits ← Der.only? lengthWidth Der.bitStringTag fields
  let (unused, octets) ← bits? bits
  some (algorithm, if unused = 0 then some octets else none)

def decode (text : String) : Except KeyError Pem.Document :=
  match Pem.decode? text with
  | none => .error .syntaxError
  | some document =>
    if (Der.only? lengthWidth Der.sequenceTag document.content).isSome then .ok document
    else .error .syntaxError

def orElse {α : Type} (error : KeyError) : Option α → Except KeyError α
  | some a => .ok a
  | none => .error error

def privateKey (text : String) : Except KeyError PrivateKey := do
  let document ← decode text
  if document.label = "RSA PRIVATE KEY" then
    .rsa <$> orElse .rejected (Rsa.PrivateKey.ofDer? document.content)
  else
    let wrapped ← orElse .syntaxError (wrappedPrivateKey? document.content)
    if wrapped.algorithm.name = rsaName then
      .rsa <$> orElse .rejected (Rsa.PrivateKey.ofDer? wrapped.key)
    else if wrapped.algorithm.name = ecdsaName then
      let curve ← curveOf wrapped.algorithm
      .ecdsa curve <$> orElse .rejected (Ecdsa.PrivateKey.ofPkcs8? curve.naming document.content)
    else .error .unknownKeyType

def publicKey (text : String) : Except KeyError PublicKey := do
  let document ← decode text
  if document.label = "RSA PUBLIC KEY" then .ok (.rsa document.content)
  else
    let (algorithm, octets) ← orElse .syntaxError (wrappedPublicKey? document.content)
    let octets ← orElse .malformedKey octets
    if algorithm.name = rsaName then .ok (.rsa octets)
    else if algorithm.name = ecdsaName then
      let curve ← curveOf algorithm
      .ok (.ecdsa curve octets)
    else .error .unknownKeyType

/-- Whether key material looks like a document, white space before it aside. -/
def isDocument (material : Bytes) : Bool :=
  (Bytes.ofText "-----BEGIN ").isPrefixOf (material.dropWhile Bytes.isBlank)

/-- Whether a document holds a public key, which its text says. -/
def isPublic (text : String) : Bool := Text.contains "PUBLIC KEY" text

inductive Key where
  | secret (key : PrivateKey)
  | shared (key : PublicKey)

def keyOf (material : Bytes) : Except KeyError Key := do
  let text ← orElse .malformedKey (Text.Utf8.strict? material)
  if isPublic text then .shared <$> publicKey text else .secret <$> privateKey text

end KeyDocument
end SignedRequest
