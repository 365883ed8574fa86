import TransparencyLog.Decimal.Numeral

namespace TransparencyLog.Numeral

def isLeading (c : Char) : Bool :=
  c = '0' || c = '_'

/-- A number without the zeros in front. The last of them stays where no digit follows. -/
def dropLeading (cs : List Char) : List Char :=
  if cs.head? = some '0' then
    let leading := cs.takeWhile isLeading
    let rest := cs.dropWhile isLeading
    if rest.isEmpty ∨ rest.head? = some '.' then leading.drop (leading.length - 1) ++ rest else rest
  else cs

def dropPlaces? (cs : List Char) : Option (List Char) :=
  match cs.dropWhile (· ≠ '.') with
  | [] => some cs
  | _ :: places =>
      if !places.isEmpty && places.all (· = '0') then some (cs.takeWhile (· ≠ '.')) else none

/-- A number without underscores, each of which has to stand between two other characters. -/
def dropMarks? : List Char → Option (List Char)
  | [] => some []
  | [c] => if c = '_' then none else some [c]
  | c :: d :: rest =>
      if c = '_' then none
      else if d = '_' then
        if rest.isEmpty then none else (c :: ·) <$> dropMarks? rest
      else (c :: ·) <$> dropMarks? (d :: rest)

/-- The number that ASCII digits spell; no zero stands in front of another digit. -/
def ofDigits? (cs : List Char) : Option Nat :=
  if cs.isEmpty ∨ !cs.all Char.isDigit ∨ (cs.head? = some '0' ∧ 1 < cs.length) then none
  else some (Nat.ofDigitChars 10 cs 0)

/-- The integer that ASCII digits spell, with or without a minus in front. -/
def ofSignedDigits? : List Char → Option Int
  | '-' :: rest => (ofDigits? rest).map fun n => -(n : Int)
  | cs => (ofDigits? cs).map fun n => (n : Int)

/-- The integer in the lenient form without a sign in front; a minus may still follow the zeros. -/
def readLenient? (negative : Bool) (cs : List Char) : Option Int := do
  let whole ← dropPlaces? (dropLeading cs)
  let kept ← dropMarks? whole
  let written := if negative then '-' :: kept else kept
  if written.length ≤ digitLimit then ofSignedDigits? written else none

/-- The integer that a text spells in the lenient form, white space around it allowed. -/
def parseLenient? (text : String) : Option Int :=
  match Text.trim Text.isWhiteSpace text.toList with
  | '-' :: rest => readLenient? true rest
  | '+' :: '-' :: _ => none
  | '+' :: rest => readLenient? false rest
  | cs => readLenient? false cs

end TransparencyLog.Numeral
