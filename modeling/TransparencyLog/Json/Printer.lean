import TransparencyLog.Decimal.Numeral
import TransparencyLog.Json.Escape
import TransparencyLog.Value

namespace TransparencyLog.Json

/-- How a document is laid out: what stands between items at a given depth, and after a name. -/
structure Layout where
  charset : Charset
  indent : Option Nat
  separator : List CodePoint
  colon : List CodePoint

namespace Layout

def indented : Layout := ⟨.ascii, some 2, [','], [':', ' ']⟩

def compact : Layout := ⟨.unicode, none, [','], [':']⟩

def oneLine : Layout := ⟨.ascii, none, [',', ' '], [':', ' ']⟩

def lineBreak (layout : Layout) (depth : Nat) : List CodePoint :=
  match layout.indent with
  | none => []
  | some width => '\n' :: List.replicate (width * depth) (.char ' ')

def enclose (layout : Layout) (depth : Nat) (opening closing : CodePoint)
    (items : List (List CodePoint)) : List CodePoint :=
  if items.isEmpty then [opening, closing]
  else
    let inner := layout.lineBreak (depth + 1)
    opening :: inner ++ List.intercalate (layout.separator ++ inner) items ++
      layout.lineBreak depth ++ [closing]

end Layout

inductive PrintFault
  | foreignValue (typeName : String)
  | foreignKey (typeName : String)
  | overlong (fault : Numeral.Overlong)
deriving DecidableEq, Repr

def PrintFault.message : PrintFault → String
  | .foreignValue typeName => s!"Object of type {typeName} is not JSON serializable"
  | .foreignKey typeName => s!"keys must be str, int, float, bool or None, not {typeName}"
  | .overlong fault => fault.message

def numberWords : Binary64.Words := ⟨"NaN", "Infinity"⟩

def printInt (n : Int) : Except PrintFault (List CodePoint) :=
  match Numeral.write n with
  | .ok cs => .ok (cs.map .char)
  | .error fault => .error (.overlong fault)

mutual

def printChars (layout : Layout) (depth : Nat) : Value → Except PrintFault (List CodePoint)
  | .null => .ok ['n', 'u', 'l', 'l']
  | .bool true => .ok ['t', 'r', 'u', 'e']
  | .bool false => .ok ['f', 'a', 'l', 's', 'e']
  | .int n => printInt n
  | .float x => .ok ((x.chars numberWords).map .char)
  | .str text => .ok (quote layout.charset text)
  | .list items | .tuple items => do
      return layout.enclose depth '[' ']' (← printItems layout (depth + 1) items)
  | .map entries => do
      return layout.enclose depth '\x7b' '\x7d' (← printMembers layout (depth + 1) entries)
  | value => .error (.foreignValue value.typeName)

def printItems (layout : Layout) (depth : Nat) :
    List Value → Except PrintFault (List (List CodePoint))
  | [] => .ok []
  | item :: rest => do
      let text ← printChars layout depth item
      return text :: (← printItems layout depth rest)

def printMembers (layout : Layout) (depth : Nat) :
    List (Value × Value) → Except PrintFault (List (List CodePoint))
  | [] => .ok []
  | (.str name, value) :: rest => do
      let text ← printChars layout depth value
      return (quote layout.charset name ++ layout.colon ++ text) ::
        (← printMembers layout depth rest)
  | (key, _) :: _ => .error (.foreignKey key.typeName)

end

/-- The text of a document, halves that are left in it as escape sequences as well. -/
def print (layout : Layout) (value : Value) : Except PrintFault String :=
  (fun codes => String.ofList (codes.flatMap CodePoint.spelled)) <$> printChars layout 0 value

end TransparencyLog.Json
