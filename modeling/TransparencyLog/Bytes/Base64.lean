import TransparencyLog.Text.Escape
import TransparencyLog.Text.Loose

/-!
Base64 text with padding. Writing pads to whole groups of four. Reading refuses everything outside
the alphabet and any data after padding; it ignores the unused low bits of the last digit and takes
padding that goes on after whole groups.
-/

namespace TransparencyLog.Base64

def digit (n : Nat) : Char :=
  if n < 26 then Char.ofNat (65 + n)
  else if n < 52 then Char.ofNat (71 + n)
  else if n < 62 then Char.ofNat (n - 4)
  else if n = 62 then '+' else '/'

def value? (c : Char) : Option Nat :=
  if 'A' ≤ c ∧ c ≤ 'Z' then some (c.toNat - 65)
  else if 'a' ≤ c ∧ c ≤ 'z' then some (c.toNat - 71)
  else if '0' ≤ c ∧ c ≤ '9' then some (c.toNat + 4)
  else if c = '+' then some 62
  else if c = '/' then some 63
  else none

/-- The characters that write a byte string, three octets to four digits. -/
def chars : Bytes → List Char
  | [] => []
  | [a] => [digit (a.toNat / 4), digit (a.toNat % 4 * 16), '=', '=']
  | [a, b] =>
      [digit (a.toNat / 4), digit (a.toNat % 4 * 16 + b.toNat / 16),
        digit (b.toNat % 16 * 4), '=']
  | a :: b :: c :: rest =>
      digit (a.toNat / 4) :: digit (a.toNat % 4 * 16 + b.toNat / 16) ::
        digit (b.toNat % 16 * 4 + c.toNat / 64) :: digit (c.toNat % 64) :: chars rest

def encode (bytes : Bytes) : String :=
  String.ofList (chars bytes)

inductive Fault
  /-- Code points outside ASCII from `start` up to, not including, `stop`; `first` is the first. -/
  | beyondAscii (start stop : Nat) (first : CodePoint)
  | leadingPadding
  | excessData
  | foreignCharacter
  | dataAfterPadding
  | loneDigit (count : Nat)
  | incompletePadding
deriving DecidableEq, Repr

def Fault.message : Fault → String
  | .beyondAscii start stop first =>
      "'ascii' codec can't encode " ++
        (if stop = start + 1 then
          "character '" ++ String.ofList (Text.codeEscape first.toNat) ++ "' in position " ++
            toString start
        else "characters in position " ++ toString start ++ "-" ++ toString (stop - 1)) ++
        ": ordinal not in range(128)"
  | .leadingPadding => "Leading padding not allowed"
  | .excessData => "Excess data after padding"
  | .foreignCharacter => "Only base64 data is allowed"
  | .dataAfterPadding => "Discontinuous padding not allowed"
  | .loneDigit count =>
      "Invalid base64-encoded string: number of data characters (" ++ toString count ++
        ") cannot be 1 more than a multiple of 4"
  | .incompletePadding => "Incorrect padding"

def foreignRun? (codes : List CodePoint) : Option Fault :=
  let foreign := fun code : CodePoint => decide (128 ≤ code.toNat)
  let start := codes.findIdx foreign
  match codes.drop start with
  | [] => none
  | code :: rest => some (.beyondAscii start (start + 1 + (rest.takeWhile foreign).length) code)

def isDigit (c : Char) : Bool :=
  (value? c).isSome

/-- Checks what follows `count` digits, `pads` padding characters having been seen. -/
def closing (count : Nat) : (pads : Nat) → List Char → Except Fault Unit
  | _, [] =>
      if count % 4 = 0 then .ok ()
      else if count % 4 = 1 then .error (.loneDigit count)
      else .error .incompletePadding
  | pads, c :: rest =>
      if c = '=' then
        if 2 ≤ count % 4 ∧ 4 ≤ count % 4 + (pads + 1) then
          if rest.isEmpty then .ok () else .error .excessData
        else closing count (pads + 1) rest
      else if isDigit c then .error .dataAfterPadding
      else .error .foreignCharacter

/-- The octets that a run of digit values spells; a last group lacking digits gives fewer octets. -/
def octets : List Nat → Bytes
  | a :: b :: c :: d :: rest =>
      (a * 4 + b / 16).toUInt8 :: (b % 16 * 16 + c / 4).toUInt8 :: (c % 4 * 64 + d).toUInt8 ::
        octets rest
  | [a, b, c] => [(a * 4 + b / 16).toUInt8, (b % 16 * 16 + c / 4).toUInt8]
  | [a, b] => [(a * 4 + b / 16).toUInt8]
  | _ => []

def read (cs : List Char) : Except Fault Bytes :=
  if cs.head? = some '=' then .error .leadingPadding
  else
    let digits := cs.takeWhile isDigit
    match closing digits.length 0 (cs.dropWhile isDigit) with
    | .error fault => .error fault
    | .ok () => .ok (octets (digits.filterMap value?))

def decode (text : LooseText) : Except Fault Bytes :=
  match foreignRun? text.codes with
  | some fault => .error fault
  | none => read (text.codes.filterMap CodePoint.char?)

end TransparencyLog.Base64
