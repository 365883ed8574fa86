import TransparencyLog.Bytes
import TransparencyLog.Curve.Residue

namespace TransparencyLog

open Residue

/-- A curve with a base point whose multiples number `order`; `octets` is the size of a coordinate.
-/
structure WeierstrassCurve where
  prime : Nat
  a : Nat
  b : Nat
  order : Nat
  baseX : Nat
  baseY : Nat
  octets : Nat

inductive PointFault
  | empty
  | unknownForm
  | noPoint
deriving DecidableEq, Repr

def PointFault.message : PointFault → String
  | .empty => "data must not be an empty byte string"
  | .unknownForm => "Unsupported elliptic curve point type"
  | .noPoint => "Invalid EC key."

namespace WeierstrassCurve

/-- A point `(x / z², y / z³)`, or the zero point where `z` is zero. -/
structure Point where
  x : Nat
  y : Nat
  z : Nat

def zero : Point := ⟨1, 1, 0⟩

def base (c : WeierstrassCurve) : Point := ⟨c.baseX, c.baseY, 1⟩

def double (c : WeierstrassCurve) (u : Point) : Point :=
  let p := c.prime
  if u.z = 0 ∨ u.y = 0 then zero
  else
    let yy := mul p u.y u.y
    let zz := mul p u.z u.z
    let s := mul p (4 * u.x) yy
    let m := (3 * mul p u.x u.x + mul p c.a (mul p zz zz)) % p
    let x := sub p (mul p m m) (2 * s)
    ⟨x, sub p (mul p m (sub p s x)) (8 * mul p yy yy), mul p (2 * u.y) u.z⟩

def add (c : WeierstrassCurve) (u v : Point) : Point :=
  let p := c.prime
  if u.z = 0 then v
  else if v.z = 0 then u
  else
    let uu := mul p u.z u.z
    let vv := mul p v.z v.z
    let x1 := mul p u.x vv
    let x2 := mul p v.x uu
    let y1 := mul p u.y (mul p vv v.z)
    let y2 := mul p v.y (mul p uu u.z)
    if x1 = x2 then if y1 = y2 then c.double u else zero
    else
      let h := sub p x2 x1
      let r := sub p y2 y1
      let hh := mul p h h
      let hhh := mul p h hh
      let w := mul p x1 hh
      let x := sub p (mul p r r) (hhh + 2 * w)
      ⟨x, sub p (mul p r (sub p w x)) (mul p y1 hhh), mul p h (mul p u.z v.z)⟩

def smul (c : WeierstrassCurve) (n : Nat) (u : Point) : Point :=
  multiple zero c.add n u

def affine? (c : WeierstrassCurve) (u : Point) : Option (Nat × Nat) :=
  if u.z = 0 then none
  else
    let inverse := inv c.prime u.z
    let square := mul c.prime inverse inverse
    some (mul c.prime u.x square, mul c.prime u.y (mul c.prime square inverse))

def cubic (c : WeierstrassCurve) (x : Nat) : Nat :=
  (x * x * x + c.a * x + c.b) % c.prime

def encodeFull (c : WeierstrassCurve) (x y : Nat) : Bytes :=
  4 :: Bytes.ofNatBE c.octets x ++ Bytes.ofNatBE c.octets y

def encodeShort (c : WeierstrassCurve) (x y : Nat) : Bytes :=
  (2 + y % 2).toUInt8 :: Bytes.ofNatBE c.octets x

def decode (c : WeierstrassCurve) : Bytes → Except PointFault (Nat × Nat)
  | [] => .error .empty
  | form :: rest =>
      if form = 2 ∨ form = 3 then
        let x := Bytes.toNatBE rest
        let square := c.cubic x
        let root := pow c.prime square ((c.prime + 1) / 4)
        if rest.length = c.octets ∧ x < c.prime ∧ mul c.prime root root = square then
          .ok (x, if root % 2 = form.toNat % 2 then root else Residue.neg c.prime root)
        else .error .noPoint
      else if form = 4 then
        let x := Bytes.toNatBE (rest.take c.octets)
        let y := Bytes.toNatBE (rest.drop c.octets)
        if rest.length = 2 * c.octets ∧ x < c.prime ∧ y < c.prime ∧
            mul c.prime y y = c.cubic x then
          .ok (x, y)
        else .error .noPoint
      else .error .unknownForm

def p256 : WeierstrassCurve where
  prime := 0xffffffff00000001000000000000000000000000ffffffffffffffffffffffff
  a := 0xffffffff00000001000000000000000000000000fffffffffffffffffffffffc
  b := 0x5ac635d8aa3a93e7b3ebbd55769886bc651d06b0cc53b0f63bce3c3e27d2604b
  order := 0xffffffff00000000ffffffffffffffffbce6faada7179e84f3b9cac2fc632551
  baseX := 0x6b17d1f2e12c4247f8bce6e563a440f277037d812deb33a0f4a13945d898c296
  baseY := 0x4fe342e2fe1a7f9b8ee7eb4a7c0f9e162bce33576b315ececbb6406837bf51f5
  octets := 32

def p384 : WeierstrassCurve where
  prime := 0xfffffffffffffffffffffffffffffffffffffffffffffffffffffffffffffffeffffffff0000000000000000ffffffff
  a := 0xfffffffffffffffffffffffffffffffffffffffffffffffffffffffffffffffeffffffff0000000000000000fffffffc
  b := 0xb3312fa7e23ee7e4988e056be3f82d19181d9c6efe8141120314088f5013875ac656398d8a2ed19d2a85c8edd3ec2aef
  order := 0xffffffffffffffffffffffffffffffffffffffffffffffffc7634d81f4372ddf581a0db248b0a77aecec196accc52973
  baseX := 0xaa87ca22be8b05378eb1c71ef320ad746e1d3b628ba79b9859f741e082542a385502f25dbf55296c3a545e3872760ab7
  baseY := 0x3617de4a96262c6f5d9e98bf9292dc29f8f41dbd289a147ce9da3113b5f0b8c00a60b1ce1d7e819d7a431d7c90ea0e5f
  octets := 48

def p521 : WeierstrassCurve where
  prime := Nat.pow 2 521 - 1
  a := Nat.pow 2 521 - 4
  b := 0x051953eb9618e1c9a1f929a21a0b68540eea2da725b99b315f3b8b489918ef109e156193951ec7e937b1652c0bd3bb1bf073573df883d2c34f1ef451fd46b503f00
  order := 0x1fffffffffffffffffffffffffffffffffffffffffffffffffffffffffffffffffffa51868783bf2f966b7fcc0148f709a5d03bb5c9b8899c47aebb6fb71e91386409
  baseX := 0xc6858e06b70404e9cd9e3ecb662395b4429c648139053fb521f828af606b4d3dbaa14b5e77efe75928fe1dc127a2ffa8de3348b3c1856a429bf97e7e31c2e5bd66
  baseY := 0x11839296a789a3bc0045c8a5fb42c7d1bd998f54449579b446817afbd17273e662c97ee72995ef42640c550b9013fad0761353c7086a272c24088be94769fd16650
  octets := 66

end WeierstrassCurve

end TransparencyLog
