import Mathlib.Data.List.Prime
import Mathlib.NumberTheory.LucasPrimality
import TransparencyLog.Proofs.Curve.Residue

namespace TransparencyLog.Residue

variable {p a : Nat} {factors : List Nat}

/-- A number is prime if powers of some residue tell apart all the factors of the number before
it. -/
theorem prime_of_powers (hp : 1 < p) (hproduct : factors.prod = p - 1)
    (hprime : ∀ q ∈ factors, q.Prime) (hone : pow p a (p - 1) = 1)
    (hfactors : ∀ q ∈ factors, pow p a ((p - 1) / q) ≠ 1) : p.Prime := by
  have hpositive : NeZero p := ⟨by omega⟩
  have hpow (exponent : Nat) : ((a : Nat) : ZMod p) ^ exponent = 1 ↔ pow p a exponent = 1 := by
    rw [← cast_pow, ← Nat.cast_one, cast_inj (pow_lt a exponent) hp]
  refine lucas_primality p a ((hpow _).mpr hone) fun q hq hdvd => ?_
  rw [← hproduct] at hdvd
  obtain ⟨factor, hfactor, hdvd⟩ := (Prime.dvd_prod_iff hq.prime).mp hdvd
  obtain rfl := (Nat.prime_dvd_prime_iff_eq hq (hprime factor hfactor)).mp hdvd
  rw [ne_eq, hpow]
  exact hfactors q hfactor

/-- A number, a residue whose powers show that it is prime, and the factors of the number before
it. -/
structure Certificate where
  number : Nat
  residue : Nat
  factors : List Nat

/-- A certificate holds if its factors have been certified before. -/
def Certificate.Holds (certified : List Nat) (certificate : Certificate) : Prop :=
  1 < certificate.number ∧ certificate.factors.prod = certificate.number - 1 ∧
    (∀ q ∈ certificate.factors, q ∈ certified) ∧
    pow certificate.number certificate.residue (certificate.number - 1) = 1 ∧
    ∀ q ∈ certificate.factors,
      pow certificate.number certificate.residue ((certificate.number - 1) / q) ≠ 1

instance (certified : List Nat) (certificate : Certificate) :
    Decidable (certificate.Holds certified) := by
  unfold Certificate.Holds
  infer_instance

/-- Certificates hold one after the other. -/
def Certify (certified : List Nat) : List Certificate → Prop
  | [] => True
  | certificate :: rest =>
      certificate.Holds certified ∧ Certify (certificate.number :: certified) rest

instance decidableCertify :
    (certified : List Nat) → (certificates : List Certificate) →
      Decidable (Certify certified certificates)
  | _, [] => inferInstanceAs (Decidable True)
  | certified, certificate :: rest =>
      have := decidableCertify (certificate.number :: certified) rest
      inferInstanceAs (Decidable (certificate.Holds certified ∧ _))

theorem prime_of_certify {certified : List Nat} {certificates : List Certificate}
    (hcertified : ∀ q ∈ certified, q.Prime) (h : Certify certified certificates) :
    ∀ certificate ∈ certificates, certificate.number.Prime := by
  induction certificates generalizing certified with
  | nil => simp
  | cons certificate rest ih =>
      obtain ⟨⟨hnumber, hproduct, hbefore, hone, hfactors⟩, hrest⟩ := h
      have hprime : certificate.number.Prime :=
        prime_of_powers hnumber hproduct (fun q hq => hcertified q (hbefore q hq)) hone hfactors
      exact List.forall_mem_cons.mpr
        ⟨hprime, ih (List.forall_mem_cons.mpr ⟨hprime, hcertified⟩) hrest⟩

end TransparencyLog.Residue
