import SignedRequest.Text.Utf8

/-!
Key material: a shared secret, or the document of a key.
-/

namespace SignedRequest

structure Secret where
  octets : Bytes
  deriving DecidableEq

namespace Secret

def ofText (text : String) : Secret := ⟨Bytes.ofText text⟩

def isBlank (secret : Secret) : Bool := secret.octets.all Bytes.isBlank

def text (secret : Secret) : String := Text.Utf8.lossy secret.octets

end Secret
end SignedRequest
