import TransparencyLog.Text.Loose

namespace TransparencyLog.Json

/-- Which characters stand as they are. -/
inductive Charset
  | ascii
  | unicode
deriving DecidableEq, Repr

def unitEscape (n : Nat) : List Char :=
  ['\\', 'u'] ++ Hex.padded 4 n

def codeEscape (n : Nat) : List Char :=
  if n < 0x10000 then unitEscape n
  else
    unitEscape (0xD800 + (n - 0x10000) / 0x400) ++ unitEscape (0xDC00 + (n - 0x10000) % 0x400)

def escapeChar (charset : Charset) (c : Char) : List Char :=
  if c = '"' then ['\\', '"']
  else if c = '\\' then ['\\', '\\']
  else if c = '\n' then ['\\', 'n']
  else if c = '\r' then ['\\', 'r']
  else if c = '\t' then ['\\', 't']
  else if c.toNat = 12 then ['\\', 'f']
  else if c.toNat = 8 then ['\\', 'b']
  else if c.toNat < 32 then unitEscape c.toNat
  else
    match charset with
    | .unicode => [c]
    | .ascii => if c.toNat < 127 then [c] else codeEscape c.toNat

def escape (charset : Charset) : CodePoint → List CodePoint
  | .char c => (escapeChar charset c).map .char
  | .half part =>
      match charset with
      | .unicode => [.half part]
      | .ascii => (unitEscape part.code).map .char

def quote (charset : Charset) (text : LooseText) : List CodePoint :=
  .char '"' :: text.codes.flatMap (escape charset) ++ [.char '"']

end TransparencyLog.Json
