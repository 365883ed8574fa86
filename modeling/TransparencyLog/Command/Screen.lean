import TransparencyLog.Command.Console
import TransparencyLog.Command.Table

namespace TransparencyLog.Command.Screen

open Text

def joined (lines : List (List Char)) : String :=
  String.join (lines.map fun line => String.ofList line ++ "\n")

def textLines (text : String) : List (List Char) :=
  (splitLines (Markup.chars text)).map expandTabs

/-- The texts of a display, with the lines that they come to where each of them can be shown. -/
def layout : Display → List LooseText × List (List Char)
  | .text text => ([text], textLines text.spelled)
  | .table title columns rows =>
      (columns.map (.whole ·.title) ++ rows.flatten ++ [.whole title],
        Table.lines title columns (rows.map (·.map LooseText.spelled)))
  | .grid rows => (rows.flatten, Table.gridLines (rows.map (·.map LooseText.spelled)))

def fault? (texts : List LooseText) : Option Console.Fault :=
  (texts.findSome? fun text => (Markup.fault? text.spelled).map (.marks ·.message)) <|>
    texts.findSome? fun text =>
      match text.encode with
      | .ok _ => none
      | .error fault => some (.encoding fault.message)

def render (display : Display) : Except Console.Fault String :=
  let (texts, lines) := layout display
  match fault? texts with
  | some fault => .error fault
  | none => .ok (joined lines)

end Screen

def Console.standard : Console := ⟨Screen.render⟩

end TransparencyLog.Command
