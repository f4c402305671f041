import SignedRequest.Bytes

/-!
The identifier by which the receiver finds a client's key. Identifiers are compared exactly, and
the empty one stands for an identifier that was not set.
-/

namespace SignedRequest

structure KeyId where
  text : String
  deriving DecidableEq, Hashable, Inhabited, Repr

namespace KeyId

def unset : KeyId := ⟨""⟩

def isUnset (id : KeyId) : Bool := id.text.isEmpty

/-- The order of the UTF-8 octets, which is that of the characters. -/
def order (a b : KeyId) : Ordering :=
  if a.text < b.text then .lt else if a.text = b.text then .eq else .gt

end KeyId
end SignedRequest
