import TransparencyLog.Text.Decoding

/-!
UTF-8. Writing gives each character its shortest form; reading is a machine that takes one octet at
a time and refuses the first octet after which no valid text goes on, naming the octets of the
sequence read so far.
-/

namespace TransparencyLog.Utf8

def encodeChar (c : Char) : Bytes :=
  let n := c.toNat
  if n < 0x80 then [n.toUInt8]
  else if n < 0x800 then [(0xC0 + n / 0x40).toUInt8, (0x80 + n % 0x40).toUInt8]
  else if n < 0x10000 then
    [(0xE0 + n / 0x1000).toUInt8, (0x80 + n / 0x40 % 0x40).toUInt8, (0x80 + n % 0x40).toUInt8]
  else
    [(0xF0 + n / 0x40000).toUInt8, (0x80 + n / 0x1000 % 0x40).toUInt8,
      (0x80 + n / 0x40 % 0x40).toUInt8, (0x80 + n % 0x40).toUInt8]

def encodeChars (cs : List Char) : Bytes :=
  cs.flatMap encodeChar

def encode (text : String) : Bytes :=
  encodeChars text.toList

/-- A sequence of several octets that has begun at `start`: `value` is what its octets spell so far,
the next octet lies between `low` and `high`, and `more` octets follow that one. -/
structure Pending where
  start : Nat
  first : UInt8
  value : Nat
  low : Nat
  high : Nat
  more : Nat

def begin? (start : Nat) (b : UInt8) : Option Pending :=
  let n := b.toNat
  if n < 0xC2 then none
  else if n < 0xE0 then some ⟨start, b, n - 0xC0, 0x80, 0xBF, 0⟩
  else if n < 0xF0 then
    let low := if n = 0xE0 then 0xA0 else 0x80
    let high := if n = 0xED then 0x9F else 0xBF
    some ⟨start, b, n - 0xE0, low, high, 1⟩
  else if n < 0xF5 then
    let low := if n = 0xF0 then 0x90 else 0x80
    let high := if n = 0xF4 then 0x8F else 0xBF
    some ⟨start, b, n - 0xF0, low, high, 2⟩
  else none

def fault (start stop : Nat) (first : UInt8) (flaw : DecodingFlaw) : DecodingFault :=
  ⟨"utf-8", start, stop, first, flaw⟩

/-- Reads the octets from `position` on, inside the sequence `pending` if there is one; `done` holds
the characters before it in reverse. -/
def read (position : Nat) (done : List Char) :
    (pending : Option Pending) → Bytes → Except DecodingFault (List Char)
  | none, [] => .ok done.reverse
  | some p, [] => .error (fault p.start position p.first .truncation)
  | none, b :: rest =>
      if b.toNat < 0x80 then read (position + 1) (Char.ofNat b.toNat :: done) none rest
      else
        match begin? position b with
        | none => .error (fault position (position + 1) b .start)
        | some p => read (position + 1) done (some p) rest
  | some p, b :: rest =>
      if p.low ≤ b.toNat ∧ b.toNat ≤ p.high then
        let value := p.value * 64 + b.toNat % 64
        match p.more with
        | 0 => read (position + 1) (Char.ofNat value :: done) none rest
        | more + 1 =>
            read (position + 1) done (some ⟨p.start, p.first, value, 0x80, 0xBF, more⟩) rest
      else .error (fault p.start position p.first .continuation)

def decodeChars (bytes : Bytes) : Except DecodingFault (List Char) :=
  read 0 [] none bytes

def decode (bytes : Bytes) : Except DecodingFault String :=
  String.ofList <$> decodeChars bytes

end TransparencyLog.Utf8
