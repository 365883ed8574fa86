import Mathlib.AlgebraicGeometry.EllipticCurve.Affine.Point
import Mathlib.GroupTheory.OrderOfElement
import TransparencyLog.Curve.Weierstrass
import TransparencyLog.Proofs.Bytes.Natural
import TransparencyLog.Proofs.Curve.Residue

namespace TransparencyLog.WeierstrassCurve

open Residue WeierstrassCurve.Affine

/-- The curve over the residues modulo its prime. -/
abbrev toAffine (c : WeierstrassCurve) : WeierstrassCurve.Affine (ZMod c.prime) :=
  ⟨0, 0, 0, c.a, c.b⟩

variable {c : WeierstrassCurve} [Fact c.prime.Prime]

/-- The coordinates of a point stand for the point `(x, y)`. -/
structure Spells (c : WeierstrassCurve) (u : Point) (x y : ZMod c.prime) : Prop where
  lt_y : u.y < c.prime
  lt_z : u.z < c.prime
  ne_zero : (u.z : ZMod c.prime) ≠ 0
  x_eq : (u.x : ZMod c.prime) = x * u.z ^ 2
  y_eq : (u.y : ZMod c.prime) = y * u.z ^ 3

/-- A point in three coordinates stands for a point of the group of the curve. -/
inductive Represents (c : WeierstrassCurve) [Fact c.prime.Prime] : Point → c.toAffine.Point → Prop
  | zero {u : Point} (hz : u.z = 0) : Represents c u 0
  | affine {u : Point} {x y : ZMod c.prime} (h : c.toAffine.Nonsingular x y) (hu : Spells c u x y) :
      Represents c u (.some x y h)

theorem cast_eq_zero_iff {n : Nat} (h : n < c.prime) : (n : ZMod c.prime) = 0 ↔ n = 0 := by
  rw [← Nat.cast_zero, cast_inj h (NeZero.pos _)]

theorem negY_toAffine (x y : ZMod c.prime) : c.toAffine.negY x y = -y := by
  simp [WeierstrassCurve.Affine.negY]

theorem two_ne_zero (h : 2 < c.prime) : (2 : ZMod c.prime) ≠ 0 := by
  have hcast := (cast_eq_zero_iff h).not.mpr (by decide)
  exact_mod_cast hcast

theorem ne_negY {x y : ZMod c.prime} (htwo : 2 < c.prime) (hy : y ≠ 0) :
    y ≠ c.toAffine.negY x y := by
  rw [negY_toAffine]
  intro heq
  have hdouble : 2 * y = 0 := by linear_combination heq
  exact mul_ne_zero (two_ne_zero htwo) hy hdouble

theorem Spells.z_ne_zero {u : Point} {x y : ZMod c.prime} (h : Spells c u x y) : u.z ≠ 0 :=
  (cast_eq_zero_iff h.lt_z).not.mp h.ne_zero

theorem Spells.y_eq_zero_iff {u : Point} {x y : ZMod c.prime} (h : Spells c u x y) :
    u.y = 0 ↔ y = 0 := by
  rw [← cast_eq_zero_iff h.lt_y, h.y_eq, mul_eq_zero, or_iff_left (pow_ne_zero 3 h.ne_zero)]

theorem Spells.double {u : Point} {x y : ZMod c.prime} (htwo : 2 < c.prime) (hu : Spells c u x y)
    (hy : y ≠ 0) :
    Spells c (c.double u) (c.toAffine.addX x x (c.toAffine.slope x x y y))
      (c.toAffine.addY x x y (c.toAffine.slope x x y y)) := by
  have hslope : c.toAffine.slope x x y y * (2 * y) = 3 * x ^ 2 + c.a := by
    rw [WeierstrassCurve.Affine.slope_of_Y_ne rfl (ne_negY htwo hy), negY_toAffine]
    have hdouble : y - -y = 2 * y := by ring
    rw [hdouble, div_mul_cancel₀ _ (mul_ne_zero (two_ne_zero htwo) hy)]
    ring
  generalize c.toAffine.slope x x y y = slope at hslope
  have htangent : 3 * (u.x : ZMod c.prime) ^ 2 + c.a * (u.z : ZMod c.prime) ^ 4 =
      slope * (2 * y) * u.z ^ 4 := by
    rw [hslope, hu.x_eq]
    ring
  have hdouble : ¬ (u.z = 0 ∨ u.y = 0) := by
    rw [hu.y_eq_zero_iff]
    exact not_or.mpr ⟨hu.z_ne_zero, hy⟩
  rw [WeierstrassCurve.double, if_neg hdouble]
  have hy' : ((mul c.prime (2 * u.y) u.z : Nat) : ZMod c.prime) = 2 * y * u.z ^ 4 := by
    rw [cast_mul, Nat.cast_mul, Nat.cast_ofNat, hu.y_eq]
    ring
  have htangent' : ((3 * mul c.prime u.x u.x + mul c.prime c.a (mul c.prime
      (mul c.prime u.z u.z) (mul c.prime u.z u.z))) % c.prime : Nat) =
        slope * (2 * y) * (u.z : ZMod c.prime) ^ 4 := by
    rw [← htangent]
    simp only [ZMod.natCast_mod, Nat.cast_add, Nat.cast_mul, cast_mul, Nat.cast_ofNat]
    ring
  constructor
  · exact sub_lt _ _
  · exact mul_lt _ _
  · dsimp only
    rw [hy']
    exact mul_ne_zero (mul_ne_zero (two_ne_zero htwo) hy) (pow_ne_zero 4 hu.ne_zero)
  · dsimp only
    rw [hy']
    simp only [cast_sub, cast_mul, htangent', Nat.cast_mul, Nat.cast_ofNat, hu.x_eq, hu.y_eq,
      WeierstrassCurve.Affine.addX]
    ring
  · dsimp only
    rw [hy']
    simp only [cast_sub, cast_mul, htangent', Nat.cast_mul, Nat.cast_ofNat, hu.x_eq, hu.y_eq,
      WeierstrassCurve.Affine.addY, WeierstrassCurve.Affine.negAddY, WeierstrassCurve.Affine.negY,
      WeierstrassCurve.Affine.addX]
    ring

section Add

variable {u v : Point} {x₁ y₁ x₂ y₂ : ZMod c.prime} (hu : Spells c u x₁ y₁) (hv : Spells c v x₂ y₂)

include hu hv

theorem Spells.cross_x :
    mul c.prime u.x (mul c.prime v.z v.z) = mul c.prime v.x (mul c.prime u.z u.z) ↔ x₁ = x₂ := by
  have hz : (u.z : ZMod c.prime) ^ 2 * (v.z : ZMod c.prime) ^ 2 ≠ 0 :=
    mul_ne_zero (pow_ne_zero 2 hu.ne_zero) (pow_ne_zero 2 hv.ne_zero)
  rw [← cast_inj (mul_lt _ _) (mul_lt _ _), ← mul_left_inj' (a := x₁) hz]
  simp only [cast_mul, hu.x_eq, hv.x_eq]
  ring_nf

theorem Spells.cross_y :
    mul c.prime u.y (mul c.prime (mul c.prime v.z v.z) v.z) =
      mul c.prime v.y (mul c.prime (mul c.prime u.z u.z) u.z) ↔ y₁ = y₂ := by
  have hz : (u.z : ZMod c.prime) ^ 3 * (v.z : ZMod c.prime) ^ 3 ≠ 0 :=
    mul_ne_zero (pow_ne_zero 3 hu.ne_zero) (pow_ne_zero 3 hv.ne_zero)
  rw [← cast_inj (mul_lt _ _) (mul_lt _ _), ← mul_left_inj' (a := y₁) hz]
  simp only [cast_mul, hu.y_eq, hv.y_eq]
  ring_nf

theorem Spells.add (hne : x₁ ≠ x₂) :
    Spells c (c.add u v) (c.toAffine.addX x₁ x₂ (c.toAffine.slope x₁ x₂ y₁ y₂))
      (c.toAffine.addY x₁ x₂ y₁ (c.toAffine.slope x₁ x₂ y₁ y₂)) := by
  have hslope : y₂ = y₁ + c.toAffine.slope x₁ x₂ y₁ y₂ * (x₂ - x₁) := by
    rw [WeierstrassCurve.Affine.slope_of_X_ne hne, ← neg_sub y₂, ← neg_sub x₂, neg_div_neg_eq,
      div_mul_cancel₀ _ (sub_ne_zero.mpr hne.symm)]
    ring
  generalize c.toAffine.slope x₁ x₂ y₁ y₂ = slope at hslope
  subst hslope
  rw [WeierstrassCurve.add, if_neg hu.z_ne_zero, if_neg hv.z_ne_zero]
  simp only [hu.cross_x hv, if_neg hne]
  have hwidth : ((mul c.prime (sub c.prime (mul c.prime v.x (mul c.prime u.z u.z))
      (mul c.prime u.x (mul c.prime v.z v.z))) (mul c.prime u.z v.z) : Nat) : ZMod c.prime) =
        (x₂ - x₁) * (u.z ^ 3 * v.z ^ 3) := by
    simp only [cast_mul, cast_sub, hu.x_eq, hv.x_eq]
    ring
  constructor
  · exact sub_lt _ _
  · exact mul_lt _ _
  · dsimp only
    rw [hwidth]
    exact mul_ne_zero (sub_ne_zero.mpr hne.symm)
      (mul_ne_zero (pow_ne_zero 3 hu.ne_zero) (pow_ne_zero 3 hv.ne_zero))
  · dsimp only
    rw [hwidth]
    simp only [cast_mul, cast_sub, Nat.cast_add, Nat.cast_mul, Nat.cast_ofNat, hu.x_eq, hu.y_eq,
      hv.x_eq, hv.y_eq, WeierstrassCurve.Affine.addX]
    ring
  · dsimp only
    rw [hwidth]
    simp only [cast_mul, cast_sub, Nat.cast_add, Nat.cast_mul, Nat.cast_ofNat, hu.x_eq, hu.y_eq,
      hv.x_eq, hv.y_eq, WeierstrassCurve.Affine.addY, WeierstrassCurve.Affine.negAddY,
      WeierstrassCurve.Affine.negY, WeierstrassCurve.Affine.addX]
    ring

end Add

namespace Represents

variable {u v : Point} {P Q : c.toAffine.Point}

theorem double (htwo : 2 < c.prime) (h : Represents c u P) : Represents c (c.double u) (P + P) := by
  cases h with
  | zero hz =>
      rw [add_zero, WeierstrassCurve.double, if_pos (.inl hz)]
      exact .zero rfl
  | @affine x y h hu =>
      by_cases hy : y = 0
      · have hopposite : y = c.toAffine.negY x y := by
          rw [negY_toAffine, hy, neg_zero]
        rw [WeierstrassCurve.Affine.Point.add_self_of_Y_eq hopposite, WeierstrassCurve.double,
          if_pos (.inr (hu.y_eq_zero_iff.mpr hy))]
        exact .zero rfl
      · rw [WeierstrassCurve.Affine.Point.add_self_of_Y_ne (ne_negY htwo hy)]
        exact .affine _ (hu.double htwo hy)

theorem add (htwo : 2 < c.prime) (hu : Represents c u P) (hv : Represents c v Q) :
    Represents c (c.add u v) (P + Q) := by
  cases hu with
  | zero hz =>
      rw [zero_add, WeierstrassCurve.add, if_pos hz]
      exact hv
  | @affine x₁ y₁ h₁ hu =>
      cases hv with
      | zero hz =>
          rw [add_zero, WeierstrassCurve.add, if_neg hu.z_ne_zero, if_pos hz]
          exact .affine h₁ hu
      | @affine x₂ y₂ h₂ hv =>
          by_cases hx : x₁ = x₂
          · subst hx
            by_cases hy : y₁ = y₂
            · subst hy
              have hdouble := (Represents.affine h₁ hu).double htwo
              rw [WeierstrassCurve.add, if_neg hu.z_ne_zero, if_neg hv.z_ne_zero]
              simp only [hu.cross_x hv, hu.cross_y hv, if_true]
              exact hdouble
            · have hopposite : y₁ = c.toAffine.negY x₁ y₂ :=
                (WeierstrassCurve.Affine.Y_eq_of_X_eq h₁.1 h₂.1 rfl).resolve_left hy
              rw [WeierstrassCurve.Affine.Point.add_of_Y_eq rfl hopposite, WeierstrassCurve.add,
                if_neg hu.z_ne_zero, if_neg hv.z_ne_zero]
              simp only [hu.cross_x hv, hu.cross_y hv, if_true, if_neg hy]
              exact .zero rfl
          · rw [WeierstrassCurve.Affine.Point.add_of_X_ne hx]
            exact .affine _ (hu.add hv hx)

theorem smul (htwo : 2 < c.prime) (h : Represents c u P) (n : Nat) :
    Represents c (c.smul n u) (n • P) := by
  refine multiple_spec (fun n u => Represents c u (n • P)) ?_ ?_ ?_ n
  · rw [zero_nsmul]
    exact .zero rfl
  · rwa [one_nsmul]
  · intro m n u v hu hv
    rw [add_nsmul]
    exact hu.add htwo hv

theorem eq_zero_iff (h : Represents c u P) : P = 0 ↔ u.z = 0 := by
  cases h with
  | zero hz => exact iff_of_true rfl hz
  | affine h hu => exact iff_of_false (WeierstrassCurve.Affine.Point.some_ne_zero h) hu.z_ne_zero

end Represents

theorem represents_base {x y : Nat} (hy : y < c.prime)
    (h : c.toAffine.Nonsingular (x : ZMod c.prime) y) :
    Represents c ⟨x, y, 1⟩ (.some _ _ h) := by
  refine .affine h ⟨hy, (Fact.out : c.prime.Prime).one_lt, ?_, ?_, ?_⟩
  · dsimp only
    rw [Nat.cast_one]
    exact one_ne_zero
  · simp
  · simp

/-- Two coordinates in their range that fit the curve. -/
structure IsOn (c : WeierstrassCurve) (x y : Nat) : Prop where
  lt_x : x < c.prime
  lt_y : y < c.prime
  square : mul c.prime y y = c.cubic x

theorem cubic_lt (x : Nat) : c.cubic x < c.prime :=
  Nat.mod_lt _ (NeZero.pos _)

theorem cast_cubic (x : Nat) :
    ((c.cubic x : Nat) : ZMod c.prime) = (x : ZMod c.prime) ^ 3 + c.a * x + c.b := by
  rw [cubic, ZMod.natCast_mod]
  push_cast
  ring

theorem Represents.exists_isOn {u : Point} {P : c.toAffine.Point} (h : Represents c u P)
    (hP : P ≠ 0) : ∃ x y, c.affine? u = some (x, y) ∧ IsOn c x y := by
  cases h with
  | zero hz => exact absurd rfl hP
  | @affine x y h hu =>
      have hx : (mul c.prime u.x (mul c.prime (inv c.prime u.z) (inv c.prime u.z)) : ZMod c.prime) =
          x := by
        simp only [cast_mul, cast_inv hu.ne_zero, hu.x_eq]
        field_simp [hu.ne_zero]
      have hy : (mul c.prime u.y (mul c.prime (mul c.prime (inv c.prime u.z) (inv c.prime u.z))
          (inv c.prime u.z)) : ZMod c.prime) = y := by
        simp only [cast_mul, cast_inv hu.ne_zero, hu.y_eq]
        field_simp [hu.ne_zero]
      refine ⟨_, _, if_neg hu.z_ne_zero, mul_lt _ _, mul_lt _ _, ?_⟩
      rw [← cast_inj (mul_lt _ _) (cubic_lt _), cast_mul, cast_cubic, hx, hy]
      have hequation := (WeierstrassCurve.Affine.equation_iff ..).mp h.1
      linear_combination hequation

theorem IsOn.nonsingular {x y : Nat} (htwo : 2 < c.prime) (h : IsOn c x y) (hy : y ≠ 0) :
    c.toAffine.Nonsingular (x : ZMod c.prime) y := by
  have hsquare : (y : ZMod c.prime) * y = x ^ 3 + c.a * x + c.b := by
    rw [← cast_mul, ← cast_cubic, h.square]
  have hne := ne_negY (x := x) htwo ((cast_eq_zero_iff h.lt_y).not.mpr hy)
  refine (WeierstrassCurve.Affine.nonsingular_iff ..).mpr ⟨?_, .inr hne⟩
  rw [WeierstrassCurve.Affine.equation_iff]
  linear_combination hsquare

/-- A curve of odd prime size whose base point has a prime order. -/
structure HasPrimeOrder (c : WeierstrassCurve) : Prop where
  two_lt : 2 < c.prime
  isOn : IsOn c c.baseX c.baseY
  ne_zero : c.baseY ≠ 0
  prime_order : c.order.Prime
  smul_order : (c.smul c.order c.base).z = 0

theorem HasPrimeOrder.exists_isOn_smul (h : c.HasPrimeOrder) {n : Nat} (hpos : 0 < n)
    (hlt : n < c.order) : ∃ x y, c.affine? (c.smul n c.base) = some (x, y) ∧ IsOn c x y := by
  have hnonsingular := h.isOn.nonsingular h.two_lt h.ne_zero
  have hbase : Represents c c.base (.some _ _ hnonsingular) :=
    represents_base h.isOn.lt_y hnonsingular
  have horder : c.order • (.some _ _ hnonsingular : c.toAffine.Point) = 0 :=
    (hbase.smul h.two_lt c.order).eq_zero_iff.mpr h.smul_order
  refine (hbase.smul h.two_lt n).exists_isOn fun hzero => ?_
  have hprime : Fact c.order.Prime := ⟨h.prime_order⟩
  have hdvd := addOrderOf_dvd_of_nsmul_eq_zero hzero
  rw [addOrderOf_eq_prime horder (WeierstrassCurve.Affine.Point.some_ne_zero hnonsingular)] at hdvd
  exact Nat.not_dvd_of_pos_of_lt hpos hlt hdvd

omit [Fact c.prime.Prime] in
theorem decode_encodeFull {x y : Nat} (hoctets : c.prime ≤ 256 ^ c.octets) (h : IsOn c x y) :
    c.decode (c.encodeFull x y) = .ok (x, y) := by
  have htake : (Bytes.ofNatBE c.octets x ++ Bytes.ofNatBE c.octets y).take c.octets =
      Bytes.ofNatBE c.octets x :=
    List.take_left' (Bytes.length_ofNatBE _ _)
  have hdrop : (Bytes.ofNatBE c.octets x ++ Bytes.ofNatBE c.octets y).drop c.octets =
      Bytes.ofNatBE c.octets y :=
    List.drop_left' (Bytes.length_ofNatBE _ _)
  have hlength : (Bytes.ofNatBE c.octets x ++ Bytes.ofNatBE c.octets y).length = 2 * c.octets := by
    rw [List.length_append, Bytes.length_ofNatBE, Bytes.length_ofNatBE, two_mul]
  rw [encodeFull, List.cons_append, decode, if_neg (by decide), if_pos rfl]
  dsimp only
  rw [htake, hdrop, hlength, Bytes.toNatBE_ofNatBE (h.lt_x.trans_le hoctets),
    Bytes.toNatBE_ofNatBE (h.lt_y.trans_le hoctets), if_pos ⟨rfl, h.lt_x, h.lt_y, h.square⟩]

end TransparencyLog.WeierstrassCurve
