import TransparencyLog.Text.CellWidth.Table
import TransparencyLog.Text.CodeRange

namespace TransparencyLog.Text

def charCells (c : Char) : Nat :=
  if c.toNat < 32 ∨ (127 ≤ c.toNat ∧ c.toNat < 160) then 0
  else if c.toNat < 768 then 1
  else if inRanges weightlessRanges c then 0
  else if inRanges wideRanges c then 2
  else 1

def joiner : Char := '\u200D'

def pictureSelector : Char := '\uFE0F'

def isWidened (c : Char) : Bool :=
  inRanges widenedRanges c

/-- The cells of a text after the character `last`, the last one that took any and that no selector
has acted on. -/
def cellsAfter (last : Option Char) : List Char → Nat
  | [] => 0
  | c :: rest =>
      if c = joiner then
        match rest with
        | [] => 0
        | _ :: rest => cellsAfter last rest
      else if c = pictureSelector then
        (if last.any isWidened then 1 else 0) + cellsAfter none rest
      else if charCells c = 0 then cellsAfter last rest
      else charCells c + cellsAfter (some c) rest

def cells (cs : List Char) : Nat :=
  cellsAfter none cs

/-- Characters that are shown as one, and the cells that they take. -/
structure Grapheme where
  chars : List Char
  cells : Nat
deriving DecidableEq, Repr

def Grapheme.extend (grapheme : Grapheme) (cs : List Char) (cells : Nat) : Grapheme :=
  ⟨grapheme.chars ++ cs, grapheme.cells + cells⟩

/-- The graphemes of a text after `current`, which goes on as long as characters belong to it;
`last` is the last character that took a cell and that no selector has acted on. -/
def graphemesAfter (current : Grapheme) (last : Option Char) : List Char → List Grapheme
  | [] => [current]
  | c :: rest =>
      if c = joiner then
        match rest with
        | [] => [current.extend [c] 0]
        | d :: rest => graphemesAfter (current.extend [c, d] 0) last rest
      else if c = pictureSelector then
        if last.any isWidened then graphemesAfter (current.extend [c] 1) none rest
        else graphemesAfter (current.extend [c] 0) last rest
      else if charCells c = 0 then graphemesAfter (current.extend [c] 0) last rest
      else current :: graphemesAfter ⟨[c], charCells c⟩ (some c) rest

def graphemes : List Char → List Grapheme
  | [] => []
  | c :: rest =>
      if c = joiner ∨ c = pictureSelector ∨ charCells c = 0 then graphemesAfter ⟨[c], 0⟩ none rest
      else graphemesAfter ⟨[c], charCells c⟩ (some c) rest

/-- The first graphemes, up to a width; in the place of one that goes beyond it stands a blank. -/
def takeCells : (width : Nat) → List Grapheme → List Char
  | _, [] => []
  | width, item :: rest =>
      if width = 0 then []
      else if item.cells ≤ width then item.chars ++ takeCells (width - item.cells) rest
      else [' ']

def cut (width : Nat) (cs : List Char) : List Char :=
  takeCells width (graphemes cs)

/-- Pieces of at most a width; `used` is the width of `line`, the piece that is being filled. -/
def chopFrom (width : Nat) (line : List Char) (used : Nat) : List Grapheme → List (List Char)
  | [] => [line]
  | item :: rest =>
      if width < used + item.cells then line :: chopFrom width item.chars item.cells rest
      else chopFrom width (line ++ item.chars) (used + item.cells) rest

def chop (width : Nat) (cs : List Char) : List (List Char) :=
  chopFrom width [] 0 (graphemes cs)

def tabWidth : Nat := 8

/-- A line with blanks in the place of each tab, at least one and as many as reach the next stop;
`used` is the width of what stands before `part`, the characters since the last tab in reverse. -/
def expandTabsFrom (used : Nat) (part : List Char) : List Char → List Char
  | [] => part.reverse
  | c :: rest =>
      if c = '\t' then
        let part := (' ' :: part).reverse
        let reached := used + cells part
        let stop := (reached + tabWidth - 1) / tabWidth * tabWidth
        part ++ List.replicate (stop - reached) ' ' ++ expandTabsFrom stop [] rest
      else expandTabsFrom used (c :: part) rest

def expandTabs (line : List Char) : List Char :=
  expandTabsFrom 0 [] line

end TransparencyLog.Text
