/-!
Octet strings: what is hashed, signed and sent. A text stands for its UTF-8 octets, and a number
for its big-endian octets.
-/

namespace SignedRequest

abbrev Bytes := List UInt8

namespace Bytes

def ofText (text : String) : Bytes := text.toList.flatMap String.utf8EncodeChar

theorem ofText_append (a b : String) : ofText (a ++ b) = ofText a ++ ofText b := by
  simp [ofText, String.toList_append]

/-- The number that the octets write in base 256, most significant first. -/
def toNat (bytes : Bytes) : Nat := bytes.foldl (fun n b => n * 256 + b.toNat) 0

/-- The lowest `width` octets of a number, most significant first. -/
def ofNat (width n : Nat) : Bytes :=
  (List.range width).reverse.map fun i => UInt8.ofNat (n >>> (8 * i) % 256)

theorem length_ofNat (width n : Nat) : (ofNat width n).length = width := by simp [ofNat]

/-- The octets of a number without leading zeros. -/
def ofNatMinimal (n : Nat) : Bytes := ofNat (if n = 0 then 0 else n.log2 / 8 + 1) n

/-- White space of the ASCII repertoire, the vertical tab excepted. -/
def isBlank (b : UInt8) : Bool := b == 32 || b == 9 || b == 10 || b == 12 || b == 13

end Bytes
end SignedRequest
