import TransparencyLog.Bytes.Hex

namespace TransparencyLog.Text

/-- The sequence naming a code point with as few digits as its size allows: two, four or eight. -/
def codeEscape (n : Nat) : List Char :=
  if n < 256 then ['\\', 'x'] ++ Hex.padded 2 n
  else if n < 65536 then ['\\', 'u'] ++ Hex.padded 4 n
  else ['\\', 'U'] ++ Hex.padded 8 n

end TransparencyLog.Text
