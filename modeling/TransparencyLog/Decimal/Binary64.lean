/-!
Floating-point numbers of 64 bits, kept as their bit patterns. Reading a decimal rounds it to the
nearest number, a tie going to the even one. Writing gives the fewest digits that read back, and of
those the ones nearest to the value.
-/

namespace TransparencyLog

/-- A floating-point number: one sign bit, eleven exponent bits, fifty-two fraction bits. -/
structure Binary64 where
  bits : UInt64
deriving DecidableEq, Repr

namespace Binary64

def infinityPattern : Nat := 2047 * Nat.pow 2 52

/-- The number with the given sign and the given pattern of the other bits. -/
def ofPattern (negative : Bool) (pattern : Nat) : Binary64 :=
  ⟨((if negative then Nat.pow 2 63 else 0) + pattern).toUInt64⟩

def infinity (negative : Bool) : Binary64 :=
  ofPattern negative infinityPattern

def nan : Binary64 :=
  ofPattern false (infinityPattern + Nat.pow 2 51)

def isNegative (x : Binary64) : Bool :=
  decide (Nat.pow 2 63 ≤ x.bits.toNat)

def pattern (x : Binary64) : Nat :=
  x.bits.toNat % Nat.pow 2 63

def isNaN (x : Binary64) : Bool :=
  decide (infinityPattern < x.pattern)

def isInfinite (x : Binary64) : Bool :=
  decide (x.pattern = infinityPattern)

/-- The quotient rounded to the nearest integer, a tie going to the even one. -/
def roundDiv (num den : Nat) : Nat :=
  let q := num / den
  let r := num % den
  if 2 * r < den then q
  else if den < 2 * r then q + 1
  else q + q % 2

def patternOfRatio (num den : Nat) : Nat :=
  if num = 0 then 0
  else
    let guess : Int := (num.log2 : Int) - den.log2 - 52
    let scaled (e : Int) : Nat × Nat :=
      if e < 0 then (num * Nat.pow 2 e.natAbs, den) else (num, den * Nat.pow 2 e.natAbs)
    let exact := scaled guess
    let tight := if exact.1 < exact.2 * Nat.pow 2 52 then guess - 1 else guess
    let exponent := max tight (-1074)
    let ratio := scaled exponent
    min infinityPattern ((exponent + 1074).toNat * Nat.pow 2 52 + roundDiv ratio.1 ratio.2)

def ofDecimal (negative : Bool) (digits : Nat) (exponent : Int) : Binary64 :=
  let size : Int := (Nat.toDigits 10 digits).length
  let pattern :=
    if digits = 0 ∨ exponent + size < -400 then 0
    else if 400 < exponent + size then infinityPattern
    else if exponent < 0 then patternOfRatio digits (Nat.pow 10 exponent.natAbs)
    else patternOfRatio (digits * Nat.pow 10 exponent.natAbs) 1
  ofPattern negative pattern

def ratio (x : Binary64) : Nat × Nat :=
  let field : Nat := x.pattern / Nat.pow 2 52
  let fraction := x.pattern % Nat.pow 2 52
  let significand := if field = 0 then fraction else Nat.pow 2 52 + fraction
  let power : Int := if field = 0 then -1074 else (field : Int) - 1075
  if power < 0 then (significand, Nat.pow 2 power.natAbs)
  else (significand * Nat.pow 2 power.natAbs, 1)

def leadingExponent (num den : Nat) : Int :=
  if den ≤ num then ((Nat.toDigits 10 (num / den)).length : Int) - 1
  else -((Nat.toDigits 10 ((den - 1) / num)).length : Int)

/-- The decimal `digits * 10 ^ exponent` of `count` digits that reads back as `x`, if there is one:
of the two neighbours of the value, the nearer one that does. -/
def withDigits? (x : Binary64) (count : Nat) : Option (Nat × Int) :=
  let (num, den) := x.ratio
  let exponent := leadingExponent num den - ((count : Int) - 1)
  let (num, den) :=
    if exponent < 0 then (num * Nat.pow 10 exponent.natAbs, den)
    else (num, den * Nat.pow 10 exponent.natAbs)
  let nearest := roundDiv num den
  let other := if nearest = num / den then nearest + 1 else nearest - 1
  let readsBack := fun digits => decide ((ofDecimal false digits exponent).bits.toNat = x.pattern)
  ([nearest, other].find? readsBack).map (·, exponent)

/-- The fewest digits that read back as a positive finite number, and the exponent of the last. -/
def shortest (x : Binary64) : Nat × Int :=
  ((List.range' 1 17).findSome? x.withDigits?).getD (0, 0)

/-- Digits without the zeros at their end, and the exponent of the last one. -/
def dropZeros : List Char → Int → List Char × Int
  | cs, exponent =>
      let kept := (cs.reverse.dropWhile (· = '0')).reverse
      (kept, exponent + (cs.length - kept.length : Nat))

/-- Positional notation for a point after `point` of the digits, with at least one place. -/
def positional (digits : List Char) (point : Int) : List Char :=
  if point ≤ 0 then '0' :: '.' :: List.replicate point.natAbs '0' ++ digits
  else
    let whole := digits.take point.toNat
    let places := digits.drop point.toNat
    whole ++ List.replicate (point.toNat - whole.length) '0' ++
      '.' :: (if places.isEmpty then ['0'] else places)

def scientific (digits : List Char) (exponent : Int) : List Char :=
  let size := Nat.toDigits 10 exponent.natAbs
  digits.take 1 ++ (if digits.length ≤ 1 then [] else '.' :: digits.drop 1) ++
    ['e', if exponent < 0 then '-' else '+'] ++ (if size.length < 2 then '0' :: size else size)

/-- The text of a positive finite number: scientific from ten to the sixteenth on and below one
ten-thousandth. -/
def magnitude (x : Binary64) : List Char :=
  if x.pattern = 0 then ['0', '.', '0']
  else
    let (n, exponent) := x.shortest
    let (digits, exponent) := dropZeros (Nat.toDigits 10 n) exponent
    let point := exponent + digits.length
    if -4 < point ∧ point ≤ 16 then positional digits point else scientific digits (point - 1)

/-- The words for the numbers that digits do not write. -/
structure Words where
  nan : String
  infinity : String

def chars (words : Words) (x : Binary64) : List Char :=
  if x.isNaN then words.nan.toList
  else
    let body := if x.isInfinite then words.infinity.toList else x.magnitude
    if x.isNegative then '-' :: body else body

def equalsInt (x : Binary64) (n : Int) : Bool :=
  if x.isNaN || x.isInfinite then false
  else
    let (num, den) := x.ratio
    decide ((if x.isNegative then -(num : Int) else num) = n * den)

/-- Numeric equality: the two zeros are equal, and what is not a number equals nothing. -/
def sameNumber (x y : Binary64) : Bool :=
  !x.isNaN && !y.isNaN && (decide (x = y) || (x.pattern = 0 && y.pattern = 0))

end Binary64

end TransparencyLog
