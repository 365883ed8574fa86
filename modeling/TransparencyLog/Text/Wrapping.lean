import TransparencyLog.Text.Blank
import TransparencyLog.Text.CellWidth
import TransparencyLog.Text.Line

namespace TransparencyLog.Text

/-- The words of a text, each with the blanks after it; blanks in front go with the first word. In a
text of blanks there are none. -/
def words (cs : List Char) : List (List Char) :=
  let step := fun (state : List (List Char)) (c : Char) =>
    match state with
    | [] => [[c]]
    | word :: rest =>
        let ends := !isSpace c && word.head?.any isSpace && word.any fun d => !isSpace d
        if ends then [c] :: word :: rest else (c :: word) :: rest
  if cs.all isSpace then [] else ((cs.foldl step []).map List.reverse).reverse

/-- What becomes of a word that is wider than a line. -/
inductive WideWord
  | chopped
  | whole
deriving DecidableEq, Repr

def ended (line : List Char) : List (List Char) :=
  if line.isEmpty then [] else [line]

/-- Fills lines with words; `used` is the width of `line`, the one that is being filled. -/
def fill (wide : WideWord) (width : Nat) (line : List Char) (used : Nat) :
    List (List Char) → List (List Char)
  | [] => [line]
  | word :: rest =>
      let size := cells (trimEnd isSpace word)
      if used + size ≤ width then fill wide width (line ++ word) (used + cells word) rest
      else if size ≤ width then ended line ++ fill wide width word (cells word) rest
      else
        match wide with
        | .whole => ended line ++ fill wide width word (cells word) rest
        | .chopped =>
            let pieces := chop width word
            let last := pieces.getLastD []
            ended line ++ pieces.dropLast ++ fill wide width last (cells last) rest

def wrap (wide : WideWord) (width : Nat) (cs : List Char) : List (List Char) :=
  (splitLines cs).flatMap fun line =>
    let line := expandTabs line
    match words line with
    | [] => [line]
    | words => fill wide width [] 0 words

/-- A line without those blanks at its end that go beyond as many characters as the width has cells.
-/
def trimExcess (width : Nat) (line : List Char) : List Char :=
  let kept := trimEnd isSpace line
  if line.length ≤ width then line else line.take (max kept.length width)

def ellipsis : Char := '…'

/-- A line at most as wide as a width, an ellipsis at its end where something is missing. -/
def abridge (width : Nat) (line : List Char) : List Char :=
  if cells line ≤ width then line else cut (width - 1) line ++ [ellipsis]

end TransparencyLog.Text
