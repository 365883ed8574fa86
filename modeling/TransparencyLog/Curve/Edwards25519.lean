import TransparencyLog.Bytes
import TransparencyLog.Curve.Residue

/-!
The twisted Edwards curve `-x² + y² = 1 + d x² y²` modulo `2^255 - 19`, its base point, and the
octets of its points: `y` with the lowest bit of `x` on top.
-/

namespace TransparencyLog.Edwards25519

open Residue

def prime : Nat := Nat.pow 2 255 - 19

def order : Nat := Nat.pow 2 252 + 27742317777372353535851937790883648493

/-- The constant `d` of the curve, the quotient of -121665 and 121666. -/
def d : Nat := 37095705934669439343138083508754565189542113879843219016388785533085940283555

/-- A point `(x / z, y / z)` with `t = x y / z`. -/
structure Point where
  x : Nat
  y : Nat
  z : Nat
  t : Nat

namespace Point

def zero : Point := ⟨0, 1, 1, 0⟩

def ofAffine (x y : Nat) : Point := ⟨x, y, 1, mul prime x y⟩

def base : Point :=
  ofAffine 15112221349535400772501151409588531511454012693041857206046113283949847762202
    46316835694926478169428394003475163141307993866256225615783033603165251855960

def add (u v : Point) : Point :=
  let a := mul prime (sub prime u.y u.x) (sub prime v.y v.x)
  let b := mul prime (u.y + u.x) (v.y + v.x)
  let c := mul prime (mul prime u.t (2 * d)) v.t
  let zz := mul prime u.z (2 * v.z)
  let e := sub prime b a
  let f := sub prime zz c
  let g := zz + c
  let h := b + a
  ⟨mul prime e f, mul prime g h, mul prime f g, mul prime e h⟩

def neg (u : Point) : Point :=
  ⟨Residue.neg prime u.x, u.y, u.z, Residue.neg prime u.t⟩

def smul (n : Nat) (u : Point) : Point :=
  multiple zero add n u

def encode (u : Point) : Bytes :=
  let inverse := inv prime u.z
  let x := mul prime u.x inverse
  let y := mul prime u.y inverse
  Bytes.ofNatLE 32 (y + x % 2 * Nat.pow 2 255)

def sqrtRatio? (u v : Nat) : Option Nat :=
  let v3 := mul prime (mul prime v v) v
  let v7 := mul prime (mul prime v3 v3) v
  let root := mul prime (mul prime u v3) (pow prime (mul prime u v7) ((prime - 5) / 8))
  let square := mul prime v (mul prime root root)
  if square = u % prime then some root
  else if square = Residue.neg prime u then some (mul prime root (pow prime 2 ((prime - 1) / 4)))
  else none

/-- The point that octets name. A `y` beyond the prime counts modulo it, and the sign bit is passed
over where `x` is zero. -/
def decode? (bytes : Bytes) : Option Point := do
  let n := Bytes.toNatLE bytes
  let y := n % Nat.pow 2 255 % prime
  let yy := mul prime y y
  let x ← sqrtRatio? (sub prime yy 1) (mul prime d yy + 1)
  let x := if x % 2 = n / Nat.pow 2 255 % 2 then x else Residue.neg prime x
  return ofAffine x y

end Point

end TransparencyLog.Edwards25519
