import TransparencyLog.Decimal.Binary64
import TransparencyLog.Text.Loose

namespace TransparencyLog

/-- A value of any shape. A `buffer` is a byte string that may change, and a `record` is a package
log record whose fields have not been checked. The entries of a `map` stand in the order in which
their keys were first set. -/
inductive Value
  | null
  | bool (b : Bool)
  | int (n : Int)
  | float (x : Binary64)
  | str (text : LooseText)
  | bytes (octets : Bytes)
  | buffer (octets : Bytes)
  | list (items : List Value)
  | tuple (items : List Value)
  | map (entries : List (Value × Value))
  | record (content keyId signature : Value)
deriving Inhabited

namespace Value

def typeName : Value → String
  | .null => "NoneType"
  | .bool _ => "bool"
  | .int _ => "int"
  | .float _ => "float"
  | .str _ => "str"
  | .bytes _ => "bytes"
  | .buffer _ => "bytearray"
  | .list _ => "list"
  | .tuple _ => "tuple"
  | .map _ => "dict"
  | .record .. => "PackageLogRecord"

def octets? : Value → Option Bytes
  | .bytes octets | .buffer octets => some octets
  | _ => none

mutual

/-- The shape that keeps a value from being a key: a list, a map or a buffer, here or inside. -/
def unkeyable? : Value → Option String
  | .list _ => some "list"
  | .map _ => some "dict"
  | .buffer _ => some "bytearray"
  | .tuple items => firstUnkeyable? items
  | .record content keyId signature =>
      unkeyable? content <|> unkeyable? keyId <|> unkeyable? signature
  | _ => none

def firstUnkeyable? : List Value → Option String
  | [] => none
  | item :: rest => unkeyable? item <|> firstUnkeyable? rest

end

mutual

/-- Whether two values are one key: numbers count by value, the truth values as one and zero. -/
def sameKey : Value → Value → Bool
  | .null, .null => true
  | .str a, .str b => decide (a = b)
  | .bytes a, .bytes b => decide (a = b)
  | .float x, .float y => x.sameNumber y
  | .float x, .int n | .int n, .float x => x.equalsInt n
  | .float x, .bool b | .bool b, .float x => x.equalsInt b.toInt
  | .int n, .int m => decide (n = m)
  | .int n, .bool b | .bool b, .int n => decide (n = b.toInt)
  | .bool a, .bool b => decide (a = b)
  | .tuple xs, .tuple ys => sameKeys xs ys
  | .record a b c, .record d e f => sameKey a d && sameKey b e && sameKey c f
  | _, _ => false

def sameKeys : List Value → List Value → Bool
  | [], [] => true
  | x :: xs, y :: ys => sameKey x y && sameKeys xs ys
  | _, _ => false

end

/-- Sets a key: an old entry keeps its place and its key, a new one comes last. -/
def insert (key value : Value) : List (Value × Value) → List (Value × Value)
  | [] => [(key, value)]
  | entry :: rest =>
      if entry.1.sameKey key then (entry.1, value) :: rest else entry :: insert key value rest

def entriesOf (pairs : List (Value × Value)) : List (Value × Value) :=
  pairs.foldl (fun entries pair => insert pair.1 pair.2 entries) []

def lookup? (name : LooseText) : List (Value × Value) → Option Value
  | [] => none
  | (.str key, value) :: rest => if key = name then some value else lookup? name rest
  | _ :: rest => lookup? name rest

def object (members : List (LooseText × Value)) : Value :=
  .map (members.map fun member => (.str member.1, member.2))

/-- The values that going through a value meets: the items of a list, the keys of a map, the
characters of a text, the octets of a byte string. -/
def elements? : Value → Option (List Value)
  | .list items | .tuple items => some items
  | .map entries => some (entries.map (·.1))
  | .str text => some (text.codes.map fun code => .str (.ofCodes [code]))
  | .bytes octets | .buffer octets => some (octets.map fun b => .int b.toNat)
  | _ => none

end Value

end TransparencyLog
