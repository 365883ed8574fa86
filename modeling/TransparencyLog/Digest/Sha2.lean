import TransparencyLog.Bytes

namespace TransparencyLog

namespace Sha2

/-- The fractional parts of the cube roots of the first eighty primes, to 64 bits. -/
def roundFractions : List Nat := [
  0x428a2f98d728ae22, 0x7137449123ef65cd, 0xb5c0fbcfec4d3b2f, 0xe9b5dba58189dbbc,
  0x3956c25bf348b538, 0x59f111f1b605d019, 0x923f82a4af194f9b, 0xab1c5ed5da6d8118,
  0xd807aa98a3030242, 0x12835b0145706fbe, 0x243185be4ee4b28c, 0x550c7dc3d5ffb4e2,
  0x72be5d74f27b896f, 0x80deb1fe3b1696b1, 0x9bdc06a725c71235, 0xc19bf174cf692694,
  0xe49b69c19ef14ad2, 0xefbe4786384f25e3, 0x0fc19dc68b8cd5b5, 0x240ca1cc77ac9c65,
  0x2de92c6f592b0275, 0x4a7484aa6ea6e483, 0x5cb0a9dcbd41fbd4, 0x76f988da831153b5,
  0x983e5152ee66dfab, 0xa831c66d2db43210, 0xb00327c898fb213f, 0xbf597fc7beef0ee4,
  0xc6e00bf33da88fc2, 0xd5a79147930aa725, 0x06ca6351e003826f, 0x142929670a0e6e70,
  0x27b70a8546d22ffc, 0x2e1b21385c26c926, 0x4d2c6dfc5ac42aed, 0x53380d139d95b3df,
  0x650a73548baf63de, 0x766a0abb3c77b2a8, 0x81c2c92e47edaee6, 0x92722c851482353b,
  0xa2bfe8a14cf10364, 0xa81a664bbc423001, 0xc24b8b70d0f89791, 0xc76c51a30654be30,
  0xd192e819d6ef5218, 0xd69906245565a910, 0xf40e35855771202a, 0x106aa07032bbd1b8,
  0x19a4c116b8d2d0c8, 0x1e376c085141ab53, 0x2748774cdf8eeb99, 0x34b0bcb5e19b48a8,
  0x391c0cb3c5c95a63, 0x4ed8aa4ae3418acb, 0x5b9cca4f7763e373, 0x682e6ff3d6b2b8a3,
  0x748f82ee5defb2fc, 0x78a5636f43172f60, 0x84c87814a1f0ab72, 0x8cc702081a6439ec,
  0x90befffa23631e28, 0xa4506cebde82bde9, 0xbef9a3f7b2c67915, 0xc67178f2e372532b,
  0xca273eceea26619c, 0xd186b8c721c0c207, 0xeada7dd6cde0eb1e, 0xf57d4f7fee6ed178,
  0x06f067aa72176fba, 0x0a637dc5a2c898a6, 0x113f9804bef90dae, 0x1b710b35131c471b,
  0x28db77f523047d84, 0x32caab7b40c72493, 0x3c9ebe0a15c9bebc, 0x431d67c49c100d4c,
  0x4cc5d4becb3e42b6, 0x597f299cfc657e2a, 0x5fcb6fab3ad6faec, 0x6c44198c4a475817]

/-- The fractional parts of the square roots of the first eight primes, to 64 bits. -/
def startFractions : List Nat := [
  0x6a09e667f3bcc908, 0xbb67ae8584caa73b, 0x3c6ef372fe94f82b, 0xa54ff53a5f1d36f1,
  0x510e527fade682d1, 0x9b05688c2b3e6c1f, 0x1f83d9abfb41bd6b, 0x5be0cd19137e2179]

/-- A size of words: the octets in a word, the arithmetic on words, and the constants and mixing
functions of the rounds. -/
class Word (α : Type) extends Add α, AndOp α, XorOp α, Complement α where
  octets : Nat
  ofNat : Nat → α
  toNat : α → Nat
  constants : List α
  sum0 : α → α
  sum1 : α → α
  mix0 : α → α
  mix1 : α → α

/-- The eight chained words. -/
structure Registers (α : Type) where
  a : α
  b : α
  c : α
  d : α
  e : α
  f : α
  g : α
  h : α

namespace Registers

def toList {α : Type} (r : Registers α) : List α :=
  [r.a, r.b, r.c, r.d, r.e, r.f, r.g, r.h]

@[specialize] def add {α : Type} [Word α] (r s : Registers α) : Registers α :=
  ⟨r.a + s.a, r.b + s.b, r.c + s.c, r.d + s.d, r.e + s.e, r.f + s.f, r.g + s.g, r.h + s.h⟩

end Registers

@[specialize] def nextWord {α : Type} [Word α] (window : List α) : α :=
  let zero := Word.ofNat 0
  Word.mix1 (window.getD 14 zero) + window.getD 9 zero + Word.mix0 (window.getD 1 zero) +
    window.getD 0 zero

@[specialize] def round {α : Type} [Word α] (r : Registers α) (input : α) : Registers α :=
  let choice := (r.e &&& r.f) ^^^ (~~~r.e &&& r.g)
  let majority := (r.a &&& r.b) ^^^ (r.a &&& r.c) ^^^ (r.b &&& r.c)
  let t1 := r.h + Word.sum1 r.e + choice + input
  let t2 := Word.sum0 r.a + majority
  ⟨t1 + t2, r.a, r.b, r.c, r.d + t1, r.e, r.f, r.g⟩

/-- Runs the rounds for the given constants; `window` holds the next sixteen message words. -/
@[specialize] def rounds {α : Type} [Word α] :
    List α → (window : List α) → Registers α → Registers α
  | [], _, r => r
  | constant :: constants, window, r =>
      rounds constants (window.drop 1 ++ [nextWord window])
        (round r (constant + window.getD 0 (Word.ofNat 0)))

def pieces (size : Nat) : (count : Nat) → Bytes → List Bytes
  | 0, _ => []
  | count + 1, bytes => bytes.take size :: pieces size count (bytes.drop size)

@[specialize] def words (α : Type) [Word α] (block : Bytes) : List α :=
  (pieces (Word.octets α) 16 block).map fun piece => Word.ofNat (Bytes.toNatBE piece)

/-- The message followed by one bit, zeros and the length in bits, to whole blocks; a word has
`octets` octets, a block sixteen words and the length two. -/
def pad (octets : Nat) (message : Bytes) : Bytes :=
  let block := 16 * octets
  let used := message.length + 1 + 2 * octets
  message ++ 0x80 :: List.replicate ((block - used % block) % block) 0 ++
    Bytes.ofNatBE (2 * octets) (8 * message.length)

@[specialize] def chain {α : Type} [Word α] (start : Registers α) (message : Bytes) : Registers α :=
  let block := 16 * Word.octets α
  let padded := pad (Word.octets α) message
  (pieces block (padded.length / block) padded).foldl
    (fun r block => r.add (rounds Word.constants (words α block) r)) start

def output {α : Type} [Word α] (r : Registers α) : Bytes :=
  r.toList.flatMap fun x => Bytes.ofNatBE (Word.octets α) (Word.toNat x)

/-- The chained words before any message, the high bits of the square roots. -/
def start (α : Type) [Word α] : Registers α :=
  let word := fun i => Word.ofNat (startFractions.getD i 0 / Nat.pow 2 (64 - 8 * Word.octets α))
  ⟨word 0, word 1, word 2, word 3, word 4, word 5, word 6, word 7⟩

def rotate32 (x amount : UInt32) : UInt32 :=
  (x >>> amount) ||| (x <<< (32 - amount))

def rotate64 (x amount : UInt64) : UInt64 :=
  (x >>> amount) ||| (x <<< (64 - amount))

instance : Word UInt32 where
  octets := 4
  ofNat := UInt32.ofNat
  toNat := UInt32.toNat
  constants := (roundFractions.take 64).map fun x => UInt32.ofNat (x / Nat.pow 2 32)
  sum0 x := rotate32 x 2 ^^^ rotate32 x 13 ^^^ rotate32 x 22
  sum1 x := rotate32 x 6 ^^^ rotate32 x 11 ^^^ rotate32 x 25
  mix0 x := rotate32 x 7 ^^^ rotate32 x 18 ^^^ (x >>> 3)
  mix1 x := rotate32 x 17 ^^^ rotate32 x 19 ^^^ (x >>> 10)

instance : Word UInt64 where
  octets := 8
  ofNat := UInt64.ofNat
  toNat := UInt64.toNat
  constants := roundFractions.map UInt64.ofNat
  sum0 x := rotate64 x 28 ^^^ rotate64 x 34 ^^^ rotate64 x 39
  sum1 x := rotate64 x 14 ^^^ rotate64 x 18 ^^^ rotate64 x 41
  mix0 x := rotate64 x 1 ^^^ rotate64 x 8 ^^^ (x >>> 7)
  mix1 x := rotate64 x 19 ^^^ rotate64 x 61 ^^^ (x >>> 6)

end Sha2

def sha256 (message : Bytes) : Bytes :=
  Sha2.output (Sha2.chain (Sha2.start UInt32) message)

def sha512 (message : Bytes) : Bytes :=
  Sha2.output (Sha2.chain (Sha2.start UInt64) message)

@[simp] theorem length_sha256 (message : Bytes) : (sha256 message).length = 32 := by
  simp [sha256, Sha2.output, Sha2.Registers.toList, Sha2.Word.octets]

@[simp] theorem length_sha512 (message : Bytes) : (sha512 message).length = 64 := by
  simp [sha512, Sha2.output, Sha2.Registers.toList, Sha2.Word.octets]

end TransparencyLog
