namespace TransparencyLog.Residue

def bits (n : Nat) : List Bool :=
  (List.range (n.log2 + 1)).reverse.map n.testBit

def multiple {α : Type} (zero : α) (add : α → α → α) (n : Nat) (x : α) : α :=
  (bits n).foldl (fun sum bit => if bit then add (add sum sum) x else add sum sum) zero

def mul (p a b : Nat) : Nat :=
  a * b % p

def sub (p a b : Nat) : Nat :=
  (a + (p - b % p)) % p

def neg (p a : Nat) : Nat :=
  (p - a % p) % p

def pow (p base exponent : Nat) : Nat :=
  multiple (1 % p) (mul p) exponent (base % p)

def inv (p a : Nat) : Nat :=
  pow p a (p - 2)

end TransparencyLog.Residue
