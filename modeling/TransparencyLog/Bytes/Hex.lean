import TransparencyLog.Bytes

namespace TransparencyLog.Hex

def digit (n : Nat) : Char :=
  if n < 10 then Char.ofNat (48 + n) else Char.ofNat (87 + n)

def value? (c : Char) : Option Nat :=
  if '0' ≤ c ∧ c ≤ '9' then some (c.toNat - 48)
  else if 'a' ≤ c ∧ c ≤ 'f' then some (c.toNat - 87)
  else if 'A' ≤ c ∧ c ≤ 'F' then some (c.toNat - 55)
  else none

def ofOctet (b : UInt8) : List Char :=
  [digit (b.toNat / 16), digit (b.toNat % 16)]

def chars (bytes : Bytes) : List Char :=
  bytes.flatMap ofOctet

def encode (bytes : Bytes) : String :=
  String.ofList (chars bytes)

/-- The octets spelled by pairs of digits; `none` unless all of the text is such pairs. -/
def octets? : List Char → Option Bytes
  | [] => some []
  | [_] => none
  | high :: low :: rest => do
      let h ← value? high
      let l ← value? low
      let bytes ← octets? rest
      return (16 * h + l).toUInt8 :: bytes

def padded : (count : Nat) → Nat → List Char
  | 0, _ => []
  | count + 1, n => padded count (n / 16) ++ [digit (n % 16)]

/-- Why a text is not hexadecimal: the place of the first character that cannot be read. -/
structure Fault where
  position : Nat
deriving DecidableEq, Repr

def Fault.message (fault : Fault) : String :=
  "non-hexadecimal number found in fromhex() arg at position " ++ toString fault.position

def isGap (c : Char) : Bool :=
  c = ' ' || (9 ≤ c.toNat && c.toNat ≤ 13)

def read (position : Nat) : List Char → Except Fault Bytes
  | [] => .ok []
  | high :: rest =>
      if isGap high then read (position + 1) rest
      else match value? high, rest with
        | none, _ => .error ⟨position⟩
        | some _, [] => .error ⟨position + 1⟩
        | some h, low :: rest =>
            match value? low with
            | none => .error ⟨position + 1⟩
            | some l => do
                let bytes ← read (position + 2) rest
                return (16 * h + l).toUInt8 :: bytes

/-- Reads hexadecimal text; a character outside ASCII is reported before all else. -/
def decode (text : String) : Except Fault Bytes :=
  match text.toList.findIdx? (fun c => decide (128 ≤ c.toNat)) with
  | some position => .error ⟨position⟩
  | none => read 0 text.toList

end TransparencyLog.Hex
