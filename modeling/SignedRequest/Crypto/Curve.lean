import SignedRequest.Bytes
import SignedRequest.Crypto.Modular

/-!
Elliptic curves `y ^ 2 = x ^ 3 + a * x + b` over a prime field, and the multiples of their points.
Points are added in Jacobian coordinates, where `(x, y, z)` stands for `(x / z ^ 2, y / z ^ 3)` and
a zero `z` for the point at infinity.
-/

namespace SignedRequest

structure Curve where
  prime : Nat
  a : Nat
  b : Nat
  generatorX : Nat
  generatorY : Nat
  /-- The number of points that are multiples of the generator. -/
  order : Nat
  /-- The octets of a coordinate, and of a number below the order. -/
  size : Nat

namespace Curve

structure Point where
  x : Nat
  y : Nat
  z : Nat

def infinity : Point := ⟨1, 1, 0⟩

def generator (curve : Curve) : Point := ⟨curve.generatorX, curve.generatorY, 1⟩

def double (curve : Curve) (p : Point) : Point :=
  if p.z = 0 ∨ p.y = 0 then infinity
  else
    let m := curve.prime
    let yy := p.y * p.y % m
    let zz := p.z * p.z % m
    let s := 4 * p.x * yy % m
    let t := (3 * p.x * p.x + curve.a * (zz * zz % m)) % m
    let x := Modular.sub m (t * t) (2 * s)
    ⟨x, Modular.sub m (t * Modular.sub m s x) (8 * yy * yy), 2 * p.y * p.z % m⟩

def add (curve : Curve) (p q : Point) : Point :=
  if p.z = 0 then q
  else if q.z = 0 then p
  else
    let m := curve.prime
    let pzz := p.z * p.z % m
    let qzz := q.z * q.z % m
    let u := p.x * qzz % m
    let s := p.y * (qzz * q.z % m) % m
    let h := Modular.sub m (q.x * pzz) u
    let r := Modular.sub m (q.y * (pzz * p.z % m)) s
    if h = 0 then if r = 0 then curve.double p else infinity
    else
      let hh := h * h % m
      let hhh := hh * h % m
      let v := u * hh % m
      let x := Modular.sub m (r * r) (hhh + 2 * v)
      ⟨x, Modular.sub m (r * Modular.sub m v x) (s * hhh), p.z * q.z % m * h % m⟩

/-- The multiple `k` of a point, by repeated doubling. -/
def multiple (curve : Curve) (k : Nat) (p : Point) : Point :=
  if k = 0 then infinity
  else
    let rest := curve.multiple (k / 2) (curve.double p)
    if k % 2 = 1 then curve.add p rest else rest
termination_by k

def coordinates? (curve : Curve) (p : Point) : Option (Nat × Nat) :=
  if p.z % curve.prime = 0 then none
  else
    let m := curve.prime
    let inverse := Modular.inverse m p.z
    let square := inverse * inverse % m
    some (p.x * square % m, p.y * (square * inverse % m) % m)

def isOnCurve (curve : Curve) (x y : Nat) : Bool :=
  x < curve.prime && y < curve.prime &&
    y * y % curve.prime == (x * x * x + curve.a * x + curve.b) % curve.prime

def encodePoint (curve : Curve) (x y : Nat) : Bytes :=
  0x04 :: Bytes.ofNat curve.size x ++ Bytes.ofNat curve.size y

def decodePoint? (curve : Curve) (bytes : Bytes) : Option (Nat × Nat) :=
  match bytes with
  | 0x04 :: octets =>
    let x := Bytes.toNat (octets.take curve.size)
    let y := Bytes.toNat (octets.drop curve.size)
    if octets.length = 2 * curve.size ∧ curve.isOnCurve x y then some (x, y) else none
  | _ => none

def p256 : Curve where
  prime := 0xffffffff00000001000000000000000000000000ffffffffffffffffffffffff
  a := 0xffffffff00000001000000000000000000000000fffffffffffffffffffffffc
  b := 0x5ac635d8aa3a93e7b3ebbd55769886bc651d06b0cc53b0f63bce3c3e27d2604b
  generatorX := 0x6b17d1f2e12c4247f8bce6e563a440f277037d812deb33a0f4a13945d898c296
  generatorY := 0x4fe342e2fe1a7f9b8ee7eb4a7c0f9e162bce33576b315ececbb6406837bf51f5
  order := 0xffffffff00000000ffffffffffffffffbce6faada7179e84f3b9cac2fc632551
  size := 32

def p384 : Curve where
  prime := 0xfffffffffffffffffffffffffffffffffffffffffffffffffffffffffffffffeffffffff0000000000000000ffffffff
  a := 0xfffffffffffffffffffffffffffffffffffffffffffffffffffffffffffffffeffffffff0000000000000000fffffffc
  b := 0xb3312fa7e23ee7e4988e056be3f82d19181d9c6efe8141120314088f5013875ac656398d8a2ed19d2a85c8edd3ec2aef
  generatorX := 0xaa87ca22be8b05378eb1c71ef320ad746e1d3b628ba79b9859f741e082542a385502f25dbf55296c3a545e3872760ab7
  generatorY := 0x3617de4a96262c6f5d9e98bf9292dc29f8f41dbd289a147ce9da3113b5f0b8c00a60b1ce1d7e819d7a431d7c90ea0e5f
  order := 0xffffffffffffffffffffffffffffffffffffffffffffffffc7634d81f4372ddf581a0db248b0a77aecec196accc52973
  size := 48

end Curve
end SignedRequest
