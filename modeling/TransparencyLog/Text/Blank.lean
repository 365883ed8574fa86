namespace TransparencyLog.Text

def isBlank (c : Char) : Bool :=
  c = ' ' || c = '\t'

/-- White space among the ASCII characters, without the separator controls. -/
def isAsciiSpace (c : Char) : Bool :=
  c = ' ' || (9 ≤ c.toNat && c.toNat ≤ 13)

def isWideSpace (c : Char) : Bool :=
  [0x85, 0xA0, 0x1680, 0x2028, 0x2029, 0x202F, 0x205F, 0x3000].contains c.toNat ||
    (0x2000 ≤ c.toNat && c.toNat ≤ 0x200A)

def isWhiteSpace (c : Char) : Bool :=
  isAsciiSpace c || isWideSpace c

/-- White space anywhere in Unicode, with the four separator controls. -/
def isSpace (c : Char) : Bool :=
  isWhiteSpace c || (28 ≤ c.toNat && c.toNat ≤ 31)

def trimEnd (drop : Char → Bool) (cs : List Char) : List Char :=
  (cs.reverse.dropWhile drop).reverse

def trim (drop : Char → Bool) (cs : List Char) : List Char :=
  trimEnd drop (cs.dropWhile drop)

end TransparencyLog.Text
