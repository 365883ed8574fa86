import TransparencyLog.Decimal.Numeral
import TransparencyLog.Text.Quoted
import TransparencyLog.Value

namespace TransparencyLog.Value

def numberWords : Binary64.Words := ⟨"nan", "inf"⟩

inductive QuoteFault
  | overlong (fault : Numeral.Overlong)
  | tooDeep
deriving DecidableEq, Repr

def QuoteFault.message : QuoteFault → String
  | .overlong fault => fault.message
  | .tooDeep => "maximum recursion depth exceeded while getting the repr of an object"

/-- How many shapes may stand inside each other in a value that is quoted. -/
def quoteLimit : Nat := 985

def goInside : (room : Nat) → Except QuoteFault Nat
  | 0 => .error .tooDeep
  | room + 1 => .ok room

def quoteInt (n : Int) : Except QuoteFault String :=
  (Numeral.text n).mapError .overlong

def commaSeparated (pieces : List String) : String :=
  String.intercalate ", " pieces

def parenthesized : List String → String
  | [piece] => "(" ++ piece ++ ",)"
  | pieces => "(" ++ commaSeparated pieces ++ ")"

mutual

/-- The quoted form of a value; `room` bounds how many shapes stand inside each other in it. -/
def spell (room : Nat) : Value → Except QuoteFault String
  | .null => .ok "None"
  | .bool b => .ok (if b then "True" else "False")
  | .int n => quoteInt n
  | .float x => .ok (String.ofList (x.chars numberWords))
  | .str text => .ok (Text.quoted text)
  | .bytes octets => .ok (Text.quotedBytes octets)
  | .buffer octets => .ok (Text.quotedBuffer octets)
  | .list items => do
      let room ← goInside room
      return "[" ++ commaSeparated (← spellAll room items) ++ "]"
  | .tuple items => do
      let room ← goInside room
      return parenthesized (← spellAll room items)
  | .map entries => do
      let room ← goInside room
      return "\x7b" ++ commaSeparated (← spellEntries room entries) ++ "\x7d"
  | .record content keyId signature => do
      let room ← goInside room
      return "PackageLogRecord(content_bytes=" ++ (← spell room content) ++ ", key_id=" ++
        (← spell room keyId) ++ ", signature=" ++ (← spell room signature) ++ ")"

def spellAll (room : Nat) : List Value → Except QuoteFault (List String)
  | [] => .ok []
  | item :: rest => do return (← spell room item) :: (← spellAll room rest)

def spellEntries (room : Nat) : List (Value × Value) → Except QuoteFault (List String)
  | [] => .ok []
  | (key, value) :: rest => do
      return ((← spell room key) ++ ": " ++ (← spell room value)) :: (← spellEntries room rest)

end

def quote (value : Value) : Except QuoteFault String :=
  spell quoteLimit value

/-- A value inside a sentence: a text stands as it is, any other value is quoted. -/
def plain : Value → Except QuoteFault LooseText
  | .str text => .ok text
  | value => (↑·) <$> value.quote

end TransparencyLog.Value
