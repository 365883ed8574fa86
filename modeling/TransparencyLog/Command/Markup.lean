import TransparencyLog.Text.Blank
import TransparencyLog.Text.LetterCase

/-!
Marked texts. Tags in brackets say how the text between them looks; on a screen without colours they
vanish. A backslash in front of a bracket takes its meaning away. A tag that closes what no tag has
opened makes the whole text unfit to be shown.
-/

namespace TransparencyLog.Command.Markup

def startsTag (c : Char) : Bool :=
  ('a' ≤ c && c ≤ 'z') || ['#', '/', '@'].contains c

def isInside (c : Char) : Bool :=
  c ≠ '[' && c ≠ ']'

def tag? : List Char → Option (List Char × List Char)
  | '[' :: c :: rest =>
      match startsTag c, rest.dropWhile isInside with
      | true, ']' :: left => some ('[' :: c :: rest.takeWhile isInside ++ [']'], left)
      | _, _ => none
  | _ => none

theorem length_lt_of_tag? {cs tag left : List Char} (h : tag? cs = some (tag, left)) :
    left.length < cs.length := by
  unfold tag? at h
  split at h
  · rename_i c rest
    split at h
    · rename_i tail _ heq
      simp at h
      have hle := (List.dropWhile_suffix (p := isInside) (l := rest)).length_le
      rw [heq] at hle
      rw [← h.2]
      simp at hle ⊢
      omega
    · simp at h
  · simp at h

/-- The backslashes that stand in front of something and are not taken away. -/
def backslashes (count : Nat) : List Char :=
  List.replicate count '\\'

/-- What a text shows after as many backslashes as given. Half of those in front of a tag are shown,
and an odd one makes the tag an ordinary text; one in front of any other bracket is not shown. -/
def shownAfter (slashes : Nat) (cs : List Char) : List Char :=
  match cs with
  | [] => backslashes slashes
  | '\\' :: rest => shownAfter (slashes + 1) rest
  | c :: rest =>
      match _tag : tag? (c :: rest) with
      | some (tag, left) =>
          backslashes (slashes / 2) ++ (if slashes % 2 = 1 then tag else []) ++ shownAfter 0 left
      | none =>
          backslashes (if c = '[' then slashes - 1 else slashes) ++ c :: shownAfter 0 rest
termination_by cs.length
decreasing_by
  · simp
  · exact length_lt_of_tag? ‹_›
  · simp

def shown (text : String) : List Char :=
  shownAfter 0 text.toList

/-- A character that a screen shows; those that ring, delete or feed the page are left out. -/
def isKept (c : Char) : Bool :=
  !([7, 8, 11, 12, 13].contains c.toNat)

def chars (text : String) : List Char :=
  (shown text).filter isKept

/-- The tags of a text after as many backslashes as given, in order. -/
def tagsAfter (slashes : Nat) (cs : List Char) : List (List Char) :=
  match cs with
  | [] => []
  | '\\' :: rest => tagsAfter (slashes + 1) rest
  | c :: rest =>
      match _tag : tag? (c :: rest) with
      | some (tag, left) => (if slashes % 2 = 1 then [] else [tag]) ++ tagsAfter 0 left
      | none => tagsAfter 0 rest
termination_by cs.length
decreasing_by
  · simp
  · exact length_lt_of_tag? ‹_›
  · simp

/-- Short names of styles. -/
def shortStyles : List (String × String) := [
  ("d", "dim"), ("b", "bold"), ("i", "italic"), ("u", "underline"), ("r", "reverse"),
  ("c", "conceal"), ("s", "strike"), ("uu", "underline2"), ("o", "overline")]

/-- The name of a style, however it is written. -/
def styleName (cs : List Char) : String :=
  let name := Text.lower (String.ofList (Text.trim Text.isSpace cs))
  (shortStyles.lookup name).getD name

/-- What a tag does: it opens a style, closes the one it names, or closes the last one. -/
inductive Effect
  | opens (style : String)
  | closes (style : String)
  | closesLast
deriving DecidableEq, Repr

/-- What stands after an equals sign in a tag is no part of the name. -/
def effect (tag : List Char) : Effect :=
  match (tag.drop 1).takeWhile fun c => c ≠ '=' && c ≠ ']' with
  | '/' :: name =>
      if (Text.trim Text.isSpace name).isEmpty then .closesLast else .closes (styleName name)
  | name => .opens (styleName name)

/-- A tag that closes what is not open. -/
inductive Fault
  | unopened (tag : String)
  | nothingOpen
deriving DecidableEq, Repr

def Fault.message : Fault → String
  | .unopened tag => s!"closing tag '{tag}' doesn't match any open tag"
  | .nothingOpen => "closing tag '[/]' has nothing to close"

/-- What is wrong with the tags of a text after others have opened the given styles, the last one
first; styles may be left open. -/
def faultAfter? (styles : List String) : List (List Char) → Option Fault
  | [] => none
  | tag :: rest =>
      match effect tag with
      | .opens style => faultAfter? (style :: styles) rest
      | .closes style =>
          if style ∈ styles then faultAfter? (styles.erase style) rest
          else some (.unopened (String.ofList tag))
      | .closesLast =>
          match styles with
          | [] => some .nothingOpen
          | _ :: styles => faultAfter? styles rest

def fault? (text : String) : Option Fault :=
  faultAfter? [] (tagsAfter 0 text.toList)

end TransparencyLog.Command.Markup
