import SignedRequest.Crypto.Sha2
import SignedRequest.Encoding.Base64
import SignedRequest.Text.Blank
import SignedRequest.Text.Case
import SignedRequest.Text.Separator

/-!
The `Digest` header, which binds the body to the signed headers.
-/

namespace SignedRequest

inductive DigestAlgorithm where
  | sha256
  | sha512
  deriving DecidableEq, Inhabited

namespace DigestAlgorithm

def name : DigestAlgorithm → String
  | sha256 => "SHA-256"
  | sha512 => "SHA-512"

def otherName : DigestAlgorithm → String
  | sha256 => "id-sha-256"
  | sha512 => "id-sha-512"

def all : List DigestAlgorithm := [sha256, sha512]

def ofName? (text : String) : Option DigestAlgorithm :=
  all.find? fun algorithm =>
    Text.sameAscii text algorithm.name || Text.sameAscii text algorithm.otherName

def digest : DigestAlgorithm → Bytes → Bytes
  | sha256 => Sha2.sha256
  | sha512 => Sha2.sha512

def headerValue (algorithm : DigestAlgorithm) (body : Bytes) : String :=
  algorithm.name ++ "=" ++ Base64.encode (algorithm.digest body)

end DigestAlgorithm

/-- Whether a header value gives the digest of the body. An unknown algorithm and a malformed value
give none. -/
def matchesDigest (value : String) (body : Bytes) : Bool :=
  match Text.cut? '=' (Text.trim value) with
  | none => false
  | some (name, encoded) =>
    match DigestAlgorithm.ofName? name, Base64.decode? encoded with
    | some algorithm, some received => algorithm.digest body == received
    | _, _ => false

end SignedRequest
