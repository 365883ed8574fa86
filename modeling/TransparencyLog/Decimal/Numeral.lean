import TransparencyLog.Decimal.Digit
import TransparencyLog.Text.Blank

namespace TransparencyLog.Numeral

def digitLimit : Nat := 4300

/-- A numeral beyond the limit: one to be read, whose digits are counted, or one to be written. -/
inductive Overlong
  | read (digits : Nat)
  | written
deriving DecidableEq, Repr

def Overlong.message : Overlong → String
  | .read digits =>
      s!"Exceeds the limit ({digitLimit} digits) for integer string conversion: " ++
        s!"value has {digits} digits; use sys.set_int_max_str_digits() to increase the limit"
  | .written =>
      s!"Exceeds the limit ({digitLimit} digits) for integer string conversion; " ++
        "use sys.set_int_max_str_digits() to increase the limit"

def digits (n : Nat) : List Char :=
  Nat.toDigits 10 n

def chars (n : Int) : List Char :=
  if n < 0 then '-' :: digits n.natAbs else digits n.natAbs

def write (n : Int) : Except Overlong (List Char) :=
  if n.natAbs < Nat.pow 10 digitLimit then .ok (chars n) else .error .written

def text (n : Int) : Except Overlong String :=
  String.ofList <$> write n

/-- The number that a run of the digits `0` to `9` spells; leading zeros count as digits. -/
def read (cs : List Char) : Except Overlong Nat :=
  if cs.length ≤ digitLimit then .ok (Nat.ofDigitChars 10 cs 0) else .error (.read cs.length)

/-- The values of digits of any script with single underscores between them. -/
def digitValues? : List Char → Option (List Nat)
  | [] => none
  | [c] => (Decimal.digitValue? c).map ([·])
  | c :: '_' :: rest => do
      let value ← Decimal.digitValue? c
      let values ← digitValues? rest
      return value :: values
  | c :: rest => do
      let value ← Decimal.digitValue? c
      let values ← digitValues? rest
      return value :: values

def ofDigitValues? (values : List Nat) : Option Nat :=
  if values.length ≤ digitLimit then some (values.foldl (fun n d => 10 * n + d) 0) else none

/-- The integer that a text spells: white space around it, one sign, digits of any script, and
single underscores between digits are allowed. -/
def parse? (text : String) : Option Int :=
  match Text.trim Text.isWhiteSpace text.toList with
  | '-' :: rest => do
      let values ← digitValues? rest
      let n ← ofDigitValues? values
      return -(n : Int)
  | '+' :: rest => do
      let values ← digitValues? rest
      let n ← ofDigitValues? values
      return (n : Int)
  | rest => do
      let values ← digitValues? rest
      let n ← ofDigitValues? values
      return (n : Int)

end TransparencyLog.Numeral
