import TransparencyLog.Text.CodeRange
import TransparencyLog.Text.LetterCase.Table

namespace TransparencyLog.Text

namespace LetterCase

/-- Where a run of letters sends a code point, if it is one of the run. -/
def Run.image? (run : Run) (n : Nat) : Option Char :=
  if run.first ≤ n ∧ n ≤ run.last ∧ (n - run.first) % run.step = 0 then
    some (Char.ofNat (n + run.shift).toNat)
  else none

/-- The characters that a letter becomes under the given tables; any other character stays. -/
def convert (sequences : List (Nat × List Nat)) (runs : List Run) (c : Char) : List Char :=
  match sequences.lookup c.toNat with
  | some codes => codes.map Char.ofNat
  | none => [(runs.findSome? (Run.image? · c.toNat)).getD c]

def upperChar (c : Char) : List Char :=
  if c.toNat < 128 then [c.toUpper] else convert upperSequences upperRuns c

def lowerChar (c : Char) : List Char :=
  if c.toNat < 128 then [c.toLower] else convert lowerSequences lowerRuns c

/-- Whether the nearest character that is not skipped over is a letter with case. -/
def meetsLetter (cs : List Char) : Bool :=
  match cs.dropWhile (inRanges ignorableRanges) with
  | [] => false
  | c :: _ => inRanges casedRanges c

/-- The lower case of the characters that follow `before`, which holds the nearest one first. -/
def lowerAfter (before : List Char) : List Char → List Char
  | [] => []
  | c :: rest =>
      let image :=
        if c = 'Σ' then [if meetsLetter before && !meetsLetter rest then 'ς' else 'σ']
        else lowerChar c
      image ++ lowerAfter (c :: before) rest

end LetterCase

def upper (text : String) : String :=
  String.ofList (text.toList.flatMap LetterCase.upperChar)

def lower (text : String) : String :=
  String.ofList (LetterCase.lowerAfter [] text.toList)

end TransparencyLog.Text
