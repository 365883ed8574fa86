import TransparencyLog.Text.Escape
import TransparencyLog.Text.Loose
import TransparencyLog.Text.Printable

namespace TransparencyLog.Text

def quotationMark (cs : List Char) : Char :=
  if cs.contains '\'' && !cs.contains '"' then '"' else '\''

def quotedChar (mark : Char) (c : Char) : List Char :=
  if c = mark ∨ c = '\\' then ['\\', c]
  else if c = '\n' then ['\\', 'n']
  else if c = '\r' then ['\\', 'r']
  else if c = '\t' then ['\\', 't']
  else if isPrintable c then [c]
  else codeEscape c.toNat

/-- A half is escaped between any quotation marks. -/
def quotedCode (mark : Char) : CodePoint → List Char
  | .char c => quotedChar mark c
  | .half part => codeEscape part.code

def quotedCodes (codes : List CodePoint) : List Char :=
  let mark := quotationMark (codes.filterMap CodePoint.char?)
  mark :: codes.flatMap (quotedCode mark) ++ [mark]

def quoted (text : LooseText) : String :=
  String.ofList (quotedCodes text.codes)

/-- One octet between the given quotation marks; those outside the printable ASCII range are
escaped. -/
def quotedOctet (mark : Char) (c : Char) : List Char :=
  if c.toNat < 127 then quotedChar mark c else codeEscape c.toNat

def quotedBytes (bytes : Bytes) : String :=
  let cs := bytes.map fun b => Char.ofNat b.toNat
  let mark := quotationMark cs
  String.ofList ('b' :: mark :: cs.flatMap (quotedOctet mark) ++ [mark])

/-- A byte string that may change: a single quote is escaped between double ones as well. -/
def quotedBuffer (bytes : Bytes) : String :=
  let cs := bytes.map fun b => Char.ofNat b.toNat
  let mark := quotationMark cs
  let showOctet := fun c : Char => if c = '\'' then ['\\', c] else quotedOctet mark c
  String.ofList ("bytearray(b".toList ++ mark :: cs.flatMap showOctet ++ [mark, ')'])

end TransparencyLog.Text
