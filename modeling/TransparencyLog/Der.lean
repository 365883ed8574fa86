import TransparencyLog.Bytes

namespace TransparencyLog.Der

/-- An element: its tag and its contents. -/
structure Element where
  tag : UInt8
  contents : Bytes
deriving DecidableEq, Repr

def lengthOctets (n : Nat) : Bytes :=
  if n < 128 then [n.toUInt8]
  else if n < 256 then [0x81, n.toUInt8]
  else [0x82, (n / 256).toUInt8, n.toUInt8]

def write (tag : UInt8) (contents : Bytes) : Bytes :=
  tag :: lengthOctets contents.length ++ contents

/-- A length and what follows it; a length that has a shorter form is refused. -/
def length? : Bytes → Option (Nat × Bytes)
  | [] => none
  | first :: rest =>
      if first < 128 then some (first.toNat, rest)
      else
        let count := first.toNat - 128
        let n := Bytes.toNatBE (rest.take count)
        if count = 0 ∨ rest.length < count ∨ n < 128 ∨ n < Nat.pow 256 (count - 1) then none
        else some (n, rest.drop count)

def next? : Bytes → Option (Element × Bytes)
  | [] => none
  | tag :: rest => do
      let (n, body) ← length? rest
      if body.length < n then none
      else return (⟨tag, body.take n⟩, body.drop n)

/-- The contents of the first element, which has the given tag, and what follows it. -/
def expect? (tag : UInt8) (bytes : Bytes) : Option (Bytes × Bytes) := do
  let (element, rest) ← next? bytes
  if element.tag = tag then return (element.contents, rest) else none

def only? (tag : UInt8) (bytes : Bytes) : Option Bytes := do
  let (contents, rest) ← expect? tag bytes
  if rest.isEmpty then return contents else none

/-- The element with a tag at the start, if it is there, and what follows it. -/
def optional? (tag : UInt8) (bytes : Bytes) : Option (Option Bytes × Bytes) :=
  if bytes.head? = some tag then
    (expect? tag bytes).map fun (contents, rest) => (some contents, rest)
  else some (none, bytes)

def integerTag : UInt8 := 0x02
def bitStringTag : UInt8 := 0x03
def octetStringTag : UInt8 := 0x04
def nullTag : UInt8 := 0x05
def objectTag : UInt8 := 0x06
def sequenceTag : UInt8 := 0x30
def setTag : UInt8 := 0x31

/-- The tag of an element that is known by its number within the one around it. -/
def contextTag (number : UInt8) : UInt8 := 0xA0 + number

/-- Whether the groups of seven bits in the contents of an object identifier are whole and start
without needless zeros. -/
def areArcs : (inside : Bool) → Bytes → Bool
  | inside, [] => !inside
  | inside, b :: rest => (inside || b ≠ 0x80) && areArcs (decide (0x80 ≤ b)) rest

def isObject (contents : Bytes) : Bool :=
  !contents.isEmpty && decide (contents.length ≤ 63) && areArcs false contents

/-- The octets of a bit string from its contents, which say first how many bits of the last octet do
not count; those are zero. -/
def bitOctets? : Bytes → Option Bytes
  | [] => none
  | unused :: octets =>
      match octets.getLast? with
      | none => if unused = 0 then some [] else none
      | some last =>
          if unused.toNat ≤ 7 ∧ last.toNat % Nat.pow 2 unused.toNat = 0 then some octets else none

/-- The base-256 digits of a number, most significant first, with a zero before a digit above 127 so
that the number does not read as negative. -/
def naturalOctets (n : Nat) : Bytes :=
  Bytes.ofNatBE (n.log2 / 8 + (if n.log2 % 8 = 7 then 2 else 1)) n

def writeNatural (n : Nat) : Bytes :=
  write integerTag (naturalOctets n)

/-- A natural number from its contents; negative numbers and needless zeros are refused. -/
def natural? : Bytes → Option Nat
  | [] => none
  | first :: rest =>
      if 128 ≤ first then none
      else
        match rest with
        | second :: _ =>
            if first = 0 ∧ second < 128 then none else some (Bytes.toNatBE (first :: rest))
        | [] => some first.toNat

end TransparencyLog.Der
