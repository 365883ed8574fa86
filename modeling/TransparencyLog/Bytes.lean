namespace TransparencyLog

abbrev Bytes := List UInt8

namespace Bytes

def ofAscii (text : String) : Bytes :=
  text.toList.map fun c => c.toNat.toUInt8

/-- The number whose digits in base 256, most significant first, are the octets. -/
def toNatBE (bytes : Bytes) : Nat :=
  bytes.foldl (fun n b => 256 * n + b.toNat) 0

/-- The number whose digits in base 256, least significant first, are the octets. -/
def toNatLE : Bytes → Nat
  | [] => 0
  | b :: rest => b.toNat + 256 * toNatLE rest

/-- The `count` low base-256 digits of a number, least significant first. -/
def ofNatLE : (count : Nat) → Nat → Bytes
  | 0, _ => []
  | count + 1, n => n.toUInt8 :: ofNatLE count (n / 256)

/-- The `count` low base-256 digits of a number, most significant first. -/
def ofNatBE (count n : Nat) : Bytes :=
  (ofNatLE count n).reverse

@[simp] theorem length_ofNatLE (count n : Nat) : (ofNatLE count n).length = count := by
  induction count generalizing n with
  | zero => rfl
  | succ count ih => simp [ofNatLE, ih]

@[simp] theorem length_ofNatBE (count n : Nat) : (ofNatBE count n).length = count := by
  simp [ofNatBE]

end Bytes

end TransparencyLog
