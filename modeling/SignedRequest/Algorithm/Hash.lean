import SignedRequest.Crypto.Hmac
import SignedRequest.Crypto.Sha2
import SignedRequest.Text.Case

/-!
The hash functions that a signature algorithm can be bound to.
-/

namespace SignedRequest

inductive HashAlgorithm where
  | sha256
  | sha384
  | sha512
  deriving DecidableEq, Inhabited

namespace HashAlgorithm

def all : List HashAlgorithm := [sha256, sha384, sha512]

def name : HashAlgorithm → String
  | sha256 => "sha256"
  | sha384 => "sha384"
  | sha512 => "sha512"

def hyphenated : HashAlgorithm → String
  | sha256 => "sha-256"
  | sha384 => "sha-384"
  | sha512 => "sha-512"

def ofName? (text : String) : Option HashAlgorithm :=
  all.find? fun hash => Text.sameAscii text hash.name || Text.sameAscii text hash.hyphenated

def ofConfiguredName? (text : String) : Option HashAlgorithm :=
  all.find? fun hash => text == hash.name || text == hash.hyphenated

def digest : HashAlgorithm → Bytes → Bytes
  | sha256 => Sha2.sha256
  | sha384 => Sha2.sha384
  | sha512 => Sha2.sha512

def blockSize : HashAlgorithm → Nat
  | sha256 => 64
  | sha384 => 128
  | sha512 => 128

def hmac (hash : HashAlgorithm) (key message : Bytes) : Bytes :=
  Hmac.tag hash.digest hash.blockSize key message

/-- What precedes a hash of the function in an RSA signature: its name and the hash's length. -/
def signatureInfo : HashAlgorithm → Bytes
  | sha256 =>
    [0x30, 0x31, 0x30, 0x0d, 0x06, 0x09, 0x60, 0x86, 0x48, 0x01, 0x65, 0x03, 0x04, 0x02, 0x01, 0x05,
      0x00, 0x04, 0x20]
  | sha384 =>
    [0x30, 0x41, 0x30, 0x0d, 0x06, 0x09, 0x60, 0x86, 0x48, 0x01, 0x65, 0x03, 0x04, 0x02, 0x02, 0x05,
      0x00, 0x04, 0x30]
  | sha512 =>
    [0x30, 0x51, 0x30, 0x0d, 0x06, 0x09, 0x60, 0x86, 0x48, 0x01, 0x65, 0x03, 0x04, 0x02, 0x03, 0x05,
      0x00, 0x04, 0x40]

end HashAlgorithm
end SignedRequest
