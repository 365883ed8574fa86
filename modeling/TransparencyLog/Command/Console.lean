import TransparencyLog.Text.Loose

/-!
Consoles, where runs show what they have to say to people. How a console reads the marks in a text
and lays tables out is its own affair.
-/

namespace TransparencyLog.Command

/-- On which side of a column its cells stand. -/
inductive Side
  | left
  | right
deriving DecidableEq, Repr

/-- A column: its title, and the side of its cells. -/
structure Column where
  title : String
  side : Side
deriving DecidableEq, Repr

/-- What a console is asked to show: a marked text, or marked texts in a table or in bare rows. -/
inductive Display
  | text (text : LooseText)
  | table (title : String) (columns : List Column) (rows : List (List LooseText))
  | grid (rows : List (List LooseText))
deriving DecidableEq, Repr

/-- Why a console does not show what it is asked to: for the marks in it, or because it cannot be
encoded. -/
inductive Console.Fault
  | marks (message : String)
  | encoding (message : String)
deriving DecidableEq, Repr

def Console.Fault.message : Console.Fault → String
  | .marks message => message
  | .encoding message => message

/-- A console: what stands on it after a display. One that is refused leaves nothing on it. -/
structure Console where
  render : Display → Except Console.Fault String

def styled (style : String) (text : LooseText) : LooseText :=
  ("[" ++ style ++ "]" : String) ++ text ++ ("[/" ++ style ++ "]" : String)

end TransparencyLog.Command
