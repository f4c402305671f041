import SignedRequest.Bytes

/-!
Keyed hashing from any hash function that works on blocks of a fixed size.
-/

namespace SignedRequest.Hmac

/-- A key longer than a block is hashed first; zeros fill it to the length of a block. -/
def blockKey (hash : Bytes → Bytes) (blockSize : Nat) (key : Bytes) : Bytes :=
  let short := if key.length > blockSize then hash key else key
  short ++ List.replicate (blockSize - short.length) 0

def tag (hash : Bytes → Bytes) (blockSize : Nat) (key message : Bytes) : Bytes :=
  let padded := blockKey hash blockSize key
  hash (padded.map (· ^^^ 0x5c) ++ hash (padded.map (· ^^^ 0x36) ++ message))

end SignedRequest.Hmac
