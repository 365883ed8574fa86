import Mathlib.Tactic.NormNum.Prime
import TransparencyLog.Proofs.Curve.Primality
import TransparencyLog.Proofs.Curve.Weierstrass

namespace TransparencyLog.WeierstrassCurve

open Residue

/-- Primes that are small enough to be found by division. -/
def smallPrimes : List Nat :=
  [2, 3, 5, 7, 11, 17, 19, 23, 29, 41, 43, 53, 71, 107, 127, 131, 173, 197, 229, 257, 311, 373,
    641, 1201, 1297, 1531, 2411, 3023, 3407, 3677, 3769, 16879, 17449, 18169, 38189, 65537, 78283,
    104471, 126241, 155317, 490463, 704251]

theorem prime_of_mem_smallPrimes : ∀ q ∈ smallPrimes, q.Prime := by
  simp only [smallPrimes, List.forall_mem_cons]
  norm_num

/-- The primes that the two of the curve rest on, and these. -/
def certificates : List Certificate :=
  [⟨3969899, 2, [2, 19, 104471]⟩,
    ⟨6700417, 5, [2, 2, 2, 2, 2, 2, 2, 3, 17449]⟩,
    ⟨9350987, 2, [2, 17, 229, 1201]⟩,
    ⟨187019741, 2, [2, 2, 5, 9350987]⟩,
    ⟨191039911, 3, [2, 3, 5, 41, 155317]⟩,
    ⟨204061199, 11, [2, 11, 23, 107, 3769]⟩,
    ⟨311245691, 2, [2, 5, 7, 17, 29, 29, 311]⟩,
    ⟨622491383, 5, [2, 311245691]⟩,
    ⟨34282281433, 17, [2, 2, 2, 3, 7, 204061199]⟩,
    ⟨66417393611, 6, [2, 5, 53, 173, 197, 3677]⟩,
    ⟨1002328039319, 19, [2, 126241, 3969899]⟩,
    ⟨11290956913871, 13, [2, 5, 17, 66417393611]⟩,
    ⟨46076956964474543, 5, [2, 23, 18169, 78283, 704251]⟩,
    ⟨208150935158385979, 2, [2, 3, 11, 43, 127, 3023, 191039911]⟩,
    ⟨2624747550333869278416773953, 7, [2, 2, 2, 2, 2, 2, 3, 3, 1297, 16879, 208150935158385979]⟩,
    ⟨774023187263532362759620327192479577272145303, 3,
      [2, 3, 3, 2411, 34282281433, 11290956913871, 46076956964474543]⟩,
    ⟨835945042244614951780389953367877943453916927241, 11,
      [2, 2, 2, 3, 3, 3, 5, 774023187263532362759620327192479577272145303]⟩,
    ⟨p256.order, 7,
      [2, 2, 2, 2, 3, 71, 131, 373, 3407, 17449, 38189, 187019741, 622491383, 1002328039319,
        2624747550333869278416773953]⟩,
    ⟨p256.prime, 6,
      [2, 3, 5, 5, 17, 257, 641, 1531, 65537, 490463, 6700417,
        835945042244614951780389953367877943453916927241]⟩]

theorem certify_certificates : Certify smallPrimes certificates := by
  decide +kernel

theorem prime_of_mem_certificates {certificate : Certificate} (h : certificate ∈ certificates) :
    certificate.number.Prime :=
  prime_of_certify prime_of_mem_smallPrimes certify_certificates certificate h

theorem prime_p256 : p256.prime.Prime :=
  prime_of_mem_certificates (List.mem_of_getElem? (i := 18) rfl)

theorem prime_order_p256 : p256.order.Prime :=
  prime_of_mem_certificates (List.mem_of_getElem? (i := 17) rfl)

instance : Fact p256.prime.Prime :=
  ⟨prime_p256⟩

theorem hasPrimeOrder_p256 : p256.HasPrimeOrder where
  two_lt := by decide
  isOn := ⟨by decide, by decide, by decide⟩
  ne_zero := by decide
  prime_order := prime_order_p256
  smul_order := by decide +kernel

end TransparencyLog.WeierstrassCurve
