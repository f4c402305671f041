import SignedRequest.Algorithm.Ecdsa
import SignedRequest.Algorithm.Hmac
import SignedRequest.Algorithm.Kind
import SignedRequest.Algorithm.Rsa
import SignedRequest.Table

/-!
How the algorithm of a family is made from a hash function and key material.
-/

namespace SignedRequest

abbrev AlgorithmConstructor := HashAlgorithm → Bytes → Except Error SignatureAlgorithm

structure AlgorithmRegistry where
  constructors : Table String AlgorithmConstructor

namespace AlgorithmRegistry

def empty : AlgorithmRegistry := ⟨.empty⟩

def register (registry : AlgorithmRegistry) (family : String) (make : AlgorithmConstructor) :
    AlgorithmRegistry :=
  ⟨registry.constructors.put (Text.lower family) make⟩

def contains (registry : AlgorithmRegistry) (kind : AlgorithmKind) : Bool :=
  registry.constructors.contains kind.name

def create (registry : AlgorithmRegistry) (kind : AlgorithmKind) (hash : HashAlgorithm)
    (material : Bytes) : Except Error SignatureAlgorithm :=
  match registry.constructors.get? kind.name with
  | some make => make hash material
  | none => .error (.unsupportedAlgorithm kind.name hash.name)

def standard : AlgorithmRegistry :=
  empty.register "rsa" (fun hash material => do
      .ok (← RsaAlgorithm.ofMaterial hash material).toSignatureAlgorithm)
    |>.register "hmac" HmacAlgorithm.ofSecret
    |>.register "ecdsa" (fun hash material => do
      .ok (← EcdsaAlgorithm.ofMaterial hash material).toSignatureAlgorithm)

instance : Inhabited AlgorithmRegistry := ⟨standard⟩

end AlgorithmRegistry
end SignedRequest
