import SignedRequest.Bytes

/-!
The SHA-2 hash functions. All of them share one compression over words of 32 or 64 bits. The
constants of the narrow functions are the upper halves of those of the wide ones, for both are the
first fractional bits of the same roots.
-/

namespace SignedRequest.Sha2

/-- Arithmetic of the words that a function works on. Rotation and shift go to the right. -/
class Word (W : Type) extends Add W, AndOp W, XorOp W, Complement W where
  octets : Nat
  rotate : W → Nat → W
  shift : W → Nat → W
  ofNat : Nat → W
  toNat : W → Nat
  big0 : Nat × Nat × Nat
  big1 : Nat × Nat × Nat
  small0 : Nat × Nat × Nat
  small1 : Nat × Nat × Nat
  rounds : Nat

instance : Word UInt32 where
  octets := 4
  rotate w n := (w >>> UInt32.ofNat n) ||| (w <<< UInt32.ofNat (32 - n))
  shift w n := w >>> UInt32.ofNat n
  ofNat := UInt32.ofNat
  toNat := UInt32.toNat
  big0 := (2, 13, 22)
  big1 := (6, 11, 25)
  small0 := (7, 18, 3)
  small1 := (17, 19, 10)
  rounds := 64

instance : Word UInt64 where
  octets := 8
  rotate w n := (w >>> UInt64.ofNat n) ||| (w <<< UInt64.ofNat (64 - n))
  shift w n := w >>> UInt64.ofNat n
  ofNat := UInt64.ofNat
  toNat := UInt64.toNat
  big0 := (28, 34, 39)
  big1 := (14, 18, 41)
  small0 := (1, 8, 7)
  small1 := (19, 61, 6)
  rounds := 80

def cubeRoots : List Nat :=
  [0x428a2f98d728ae22, 0x7137449123ef65cd, 0xb5c0fbcfec4d3b2f, 0xe9b5dba58189dbbc,
    0x3956c25bf348b538, 0x59f111f1b605d019, 0x923f82a4af194f9b, 0xab1c5ed5da6d8118,
    0xd807aa98a3030242, 0x12835b0145706fbe, 0x243185be4ee4b28c, 0x550c7dc3d5ffb4e2,
    0x72be5d74f27b896f, 0x80deb1fe3b1696b1, 0x9bdc06a725c71235, 0xc19bf174cf692694,
    0xe49b69c19ef14ad2, 0xefbe4786384f25e3, 0x0fc19dc68b8cd5b5, 0x240ca1cc77ac9c65,
    0x2de92c6f592b0275, 0x4a7484aa6ea6e483, 0x5cb0a9dcbd41fbd4, 0x76f988da831153b5,
    0x983e5152ee66dfab, 0xa831c66d2db43210, 0xb00327c898fb213f, 0xbf597fc7beef0ee4,
    0xc6e00bf33da88fc2, 0xd5a79147930aa725, 0x06ca6351e003826f, 0x142929670a0e6e70,
    0x27b70a8546d22ffc, 0x2e1b21385c26c926, 0x4d2c6dfc5ac42aed, 0x53380d139d95b3df,
    0x650a73548baf63de, 0x766a0abb3c77b2a8, 0x81c2c92e47edaee6, 0x92722c851482353b,
    0xa2bfe8a14cf10364, 0xa81a664bbc423001, 0xc24b8b70d0f89791, 0xc76c51a30654be30,
    0xd192e819d6ef5218, 0xd69906245565a910, 0xf40e35855771202a, 0x106aa07032bbd1b8,
    0x19a4c116b8d2d0c8, 0x1e376c085141ab53, 0x2748774cdf8eeb99, 0x34b0bcb5e19b48a8,
    0x391c0cb3c5c95a63, 0x4ed8aa4ae3418acb, 0x5b9cca4f7763e373, 0x682e6ff3d6b2b8a3,
    0x748f82ee5defb2fc, 0x78a5636f43172f60, 0x84c87814a1f0ab72, 0x8cc702081a6439ec,
    0x90befffa23631e28, 0xa4506cebde82bde9, 0xbef9a3f7b2c67915, 0xc67178f2e372532b,
    0xca273eceea26619c, 0xd186b8c721c0c207, 0xeada7dd6cde0eb1e, 0xf57d4f7fee6ed178,
    0x06f067aa72176fba, 0x0a637dc5a2c898a6, 0x113f9804bef90dae, 0x1b710b35131c471b,
    0x28db77f523047d84, 0x32caab7b40c72493, 0x3c9ebe0a15c9bebc, 0x431d67c49c100d4c,
    0x4cc5d4becb3e42b6, 0x597f299cfc657e2a, 0x5fcb6fab3ad6faec, 0x6c44198c4a475817]

def squareRoots : List Nat :=
  [0x6a09e667f3bcc908, 0xbb67ae8584caa73b, 0x3c6ef372fe94f82b, 0xa54ff53a5f1d36f1,
    0x510e527fade682d1, 0x9b05688c2b3e6c1f, 0x1f83d9abfb41bd6b, 0x5be0cd19137e2179]

def laterSquareRoots : List Nat :=
  [0xcbbb9d5dc1059ed8, 0x629a292a367cd507, 0x9159015a3070dd17, 0x152fecd8f70e5939,
    0x67332667ffc00b31, 0x8eb44a8768581511, 0xdb0c2e0d64f98fa7, 0x47b5481dbefa4fa4]

section Compression
variable {W : Type} [Word W]

structure State (W : Type) where
  a : W
  b : W
  c : W
  d : W
  e : W
  f : W
  g : W
  h : W

def bigSigma (amounts : Nat × Nat × Nat) (w : W) : W :=
  Word.rotate w amounts.1 ^^^ Word.rotate w amounts.2.1 ^^^ Word.rotate w amounts.2.2

def smallSigma (amounts : Nat × Nat × Nat) (w : W) : W :=
  Word.rotate w amounts.1 ^^^ Word.rotate w amounts.2.1 ^^^ Word.shift w amounts.2.2

def State.round (s : State W) (constant word : W) : State W :=
  let choice := (s.e &&& s.f) ^^^ (~~~s.e &&& s.g)
  let majority := (s.a &&& s.b) ^^^ (s.a &&& s.c) ^^^ (s.b &&& s.c)
  let first := s.h + bigSigma (Word.big1 W) s.e + choice + constant + word
  let second := bigSigma (Word.big0 W) s.a + majority
  ⟨first + second, s.a, s.b, s.c, s.d + first, s.e, s.f, s.g⟩

/-- The word sixteen places after `oldest`, of which `later` holds the next fifteen. -/
def scheduled (oldest : W) (later : List W) : W :=
  let zero := Word.ofNat 0
  oldest + smallSigma (Word.small0 W) (later.getD 0 zero) + later.getD 8 zero +
    smallSigma (Word.small1 W) (later.getD 13 zero)

/-- The rounds of one block; `window` holds the next sixteen words of the schedule. -/
def rounds : List W → State W → List W → State W
  | constant :: constants, s, word :: later =>
    rounds constants (s.round constant word) (later ++ [scheduled word later])
  | _, s, _ => s

def State.add (s t : State W) : State W :=
  ⟨s.a + t.a, s.b + t.b, s.c + t.c, s.d + t.d, s.e + t.e, s.f + t.f, s.g + t.g, s.h + t.h⟩

def State.words (s : State W) : List W := [s.a, s.b, s.c, s.d, s.e, s.f, s.g, s.h]

def State.ofWords : List W → State W
  | [a, b, c, d, e, f, g, h] => ⟨a, b, c, d, e, f, g, h⟩
  | _ => let z := Word.ofNat 0; ⟨z, z, z, z, z, z, z, z⟩

def blockSize (W : Type) [Word W] : Nat := 16 * Word.octets W

def wordsOf (block : Bytes) : List W :=
  (List.range 16).map fun i =>
    Word.ofNat (Bytes.toNat ((block.drop (i * Word.octets W)).take (Word.octets W)))

def absorb (constants : List W) : Nat → State W → Bytes → State W
  | 0, s, _ => s
  | count + 1, s, bytes =>
    absorb constants count (s.add (rounds constants s (wordsOf (bytes.take (blockSize W)))))
      (bytes.drop (blockSize W))

/-- A one bit, the fewest zeros that fill the last block, and the length in bits. -/
def pad (W : Type) [Word W] (message : Bytes) : Bytes :=
  let size := blockSize W
  let width := 2 * Word.octets W
  let zeros := (size - (message.length + 1 + width) % size) % size
  message ++ 0x80 :: List.replicate zeros 0 ++ Bytes.ofNat width (8 * message.length)

def constants (W : Type) [Word W] : List W :=
  (cubeRoots.take (Word.rounds W)).map fun k => Word.ofNat (k >>> (64 - 8 * Word.octets W))

/-- The hash from the initial words `start`, before it is cut to its length. -/
def hash (W : Type) [Word W] (start : List Nat) (message : Bytes) : Bytes :=
  let initial : State W :=
    .ofWords (start.map fun h => Word.ofNat (h >>> (64 - 8 * Word.octets W)))
  let padded := pad W message
  let final := absorb (constants W) (padded.length / blockSize W) initial padded
  final.words.flatMap fun w => Bytes.ofNat (Word.octets W) (Word.toNat w)

end Compression

def sha256 (message : Bytes) : Bytes := hash UInt32 squareRoots message

def sha384 (message : Bytes) : Bytes := (hash UInt64 laterSquareRoots message).take 48

def sha512 (message : Bytes) : Bytes := hash UInt64 squareRoots message

theorem length_hash (W : Type) [Word W] (start : List Nat) (message : Bytes) :
    (hash W start message).length = 8 * Word.octets W := by
  simp [hash, State.words, Bytes.length_ofNat]
  omega

theorem length_sha256 (message : Bytes) : (sha256 message).length = 32 := length_hash ..

theorem length_sha384 (message : Bytes) : (sha384 message).length = 48 := by
  simp only [sha384, List.length_take, length_hash]
  rfl

theorem length_sha512 (message : Bytes) : (sha512 message).length = 64 := length_hash ..

end SignedRequest.Sha2
