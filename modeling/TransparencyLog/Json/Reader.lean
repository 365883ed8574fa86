import TransparencyLog.Decimal.Numeral
import TransparencyLog.Text.WideCodes
import TransparencyLog.Value

/-!
Documents from JSON text. Each reader takes the code points that are left and returns those that
are left after it; a fault carries the code points from the faulty place on, from which its position
follows. Besides the standard, the words `NaN` and `Infinity` are numbers, and of several members
with one name the last value counts, in the place of the first.
-/

namespace TransparencyLog.Json

/-- What is wrong with a text. -/
inductive Flaw
  | value
  | name
  | colon
  | comma
  | extra
  | openString
  | controlCharacter
  | escape
  | codeEscape
  | byteOrderMark
deriving DecidableEq, Repr

def Flaw.message : Flaw → String
  | .value => "Expecting value"
  | .name => "Expecting property name enclosed in double quotes"
  | .colon => "Expecting ':' delimiter"
  | .comma => "Expecting ',' delimiter"
  | .extra => "Extra data"
  | .openString => "Unterminated string starting at"
  | .controlCharacter => "Invalid control character at"
  | .escape => "Invalid \\escape"
  | .codeEscape => "Invalid \\uXXXX escape"
  | .byteOrderMark => "Unexpected UTF-8 BOM (decode using utf-8-sig)"

/-- A list or an object inside more of them than a reader goes into. -/
inductive TooDeep
  | list
  | object
deriving DecidableEq, Repr

def TooDeep.message : TooDeep → String
  | .list => "maximum recursion depth exceeded while decoding a JSON array from a unicode string"
  | .object => "maximum recursion depth exceeded while decoding a JSON object from a unicode string"

def nestingLimit : Nat := 985

/-- Where reading stops: at a flaw, with the code points from there on, at a number that is too
long, or at a list or an object that is nested too deep. -/
inductive Stop
  | flaw (kind : Flaw) (left : List CodePoint)
  | overlong (fault : Numeral.Overlong)
  | tooDeep (fault : TooDeep)

def isGap (code : CodePoint) : Bool :=
  [.char ' ', .char '\t', .char '\n', .char '\r'].contains code

def skip (cs : List CodePoint) : List CodePoint :=
  cs.dropWhile isGap

def digitValue? (code : CodePoint) : Option Nat :=
  code.char?.bind Hex.value?

def unit? (a b c d : CodePoint) : Option Nat := do
  return 4096 * (← digitValue? a) + 256 * (← digitValue? b) + 16 * (← digitValue? c) +
    (← digitValue? d)

def isHigh (n : Nat) : Bool := 0xD800 ≤ n && n < 0xDC00

def isLow (n : Nat) : Bool := 0xDC00 ≤ n && n < 0xE000

/-- The second half of a pair: an escape that names one, with more characters after it. -/
def secondHalf? : List CodePoint → Except Stop (Option (Nat × List CodePoint))
  | '\\' :: 'u' :: a :: b :: c :: d :: more :: rest =>
      match unit? a b c d with
      | none => .error (.flaw .codeEscape ('u' :: a :: b :: c :: d :: more :: rest))
      | some low => .ok (if isLow low then some (low, more :: rest) else none)
  | _ => .ok none

/-- The code point that an escape names, from the character after the backslash on. -/
def readEscape (backslash : List CodePoint) :
    List CodePoint → Except Stop (CodePoint × List CodePoint)
  | 'u' :: a :: b :: c :: d :: next :: rest =>
      match unit? a b c d with
      | none => .error (.flaw .codeEscape ('u' :: a :: b :: c :: d :: next :: rest))
      | some n =>
          if isHigh n then
            match secondHalf? (next :: rest) with
            | .error stop => .error stop
            | .ok (some (low, left)) => .ok (.char (CodePoint.paired n low), left)
            | .ok none => .ok (.ofNat n, next :: rest)
          else .ok (.ofNat n, next :: rest)
  | 'u' :: rest => .error (.flaw .codeEscape ('u' :: rest))
  | '"' :: rest => .ok ('"', rest)
  | '\\' :: rest => .ok ('\\', rest)
  | '/' :: rest => .ok ('/', rest)
  | 'b' :: rest => .ok ('\x08', rest)
  | 'f' :: rest => .ok ('\x0c', rest)
  | 'n' :: rest => .ok ('\n', rest)
  | 'r' :: rest => .ok ('\r', rest)
  | 't' :: rest => .ok ('\t', rest)
  | _ => .error (.flaw .escape backslash)

theorem length_lt_of_secondHalf? {cs left : List CodePoint} {low : Nat}
    (h : secondHalf? cs = .ok (some (low, left))) : left.length < cs.length := by
  unfold secondHalf? at h
  split at h
  · split at h
    · simp at h
    · split at h <;> simp at h
      rw [← h.2]
      simp
  · simp at h

theorem length_lt_of_readEscape {backslash cs left : List CodePoint} {c : CodePoint}
    (h : readEscape backslash cs = .ok (c, left)) : left.length < cs.length := by
  unfold readEscape at h
  split at h
  · split at h
    · simp at h
    · split at h
      · split at h
        · simp at h
        · rename_i hs
          have := length_lt_of_secondHalf? hs
          simp at h
          rw [← h.2]
          simp at this ⊢
          omega
        · simp at h
          rw [← h.2]
          simp
      · simp at h
        rw [← h.2]
        simp
  all_goals simp at h
  all_goals rw [← h.2]; simp

/-- The code points of a string up to its closing quote, `done` being those before in reverse;
`opening` starts with the opening quote. -/
def readString (opening done cs : List CodePoint) :
    Except Stop (List CodePoint × List CodePoint) :=
  match cs with
  | [] => .error (.flaw .openString opening)
  | '"' :: rest => .ok (done.reverse, rest)
  | '\\' :: rest =>
      if rest.isEmpty then .error (.flaw .openString opening)
      else
        match _read : readEscape ('\\' :: rest) rest with
        | .error stop => .error stop
        | .ok (c, left) => readString opening (c :: done) left
  | c :: rest =>
      if c.toNat < 32 then .error (.flaw .controlCharacter (c :: rest))
      else readString opening (c :: done) rest
termination_by cs.length
decreasing_by
  · have := length_lt_of_readEscape ‹_›
    simp
    omega
  · simp

def digit? (code : CodePoint) : Option Char :=
  code.char?.filter fun c => decide ('0' ≤ c) && decide (c ≤ '9')

/-- The digits that come first. -/
def leadingDigits (cs : List CodePoint) : List Char :=
  (cs.takeWhile fun code => (digit? code).isSome).filterMap digit?

def afterDigits (cs : List CodePoint) : List CodePoint :=
  cs.dropWhile fun code => (digit? code).isSome

/-- The digits before a point: a zero on its own, or digits that start with another one. -/
def wholeDigits? : List CodePoint → Option (List Char × List CodePoint)
  | '0' :: rest => some (['0'], rest)
  | code :: rest =>
      (digit? code).map fun c => (c :: leadingDigits rest, afterDigits rest)
  | [] => none

def places : List CodePoint → List Char × List CodePoint
  | '.' :: code :: rest =>
      match digit? code with
      | some c => (c :: leadingDigits rest, afterDigits rest)
      | none => ([], '.' :: code :: rest)
  | cs => ([], cs)

def exponentSign : List CodePoint → Bool × List CodePoint
  | '-' :: rest => (true, rest)
  | '+' :: rest => (false, rest)
  | cs => (false, cs)

def exponent? (cs : List CodePoint) : Option (Int × List CodePoint) :=
  match cs with
  | e :: rest =>
      if e = .char 'e' ∨ e = .char 'E' then
        let (negative, rest) := exponentSign rest
        let digits := leadingDigits rest
        let n : Nat := Nat.ofDigitChars 10 digits 0
        if digits.isEmpty then none
        else some (if negative then -(n : Int) else n, afterDigits rest)
      else none
  | [] => none

/-- A number from its sign on; `start` is what to blame if there is none. -/
def readNumber (start : List CodePoint) (negative : Bool) (cs : List CodePoint) :
    Except Stop (Value × List CodePoint) :=
  match wholeDigits? cs with
  | none => .error (.flaw .value start)
  | some (whole, rest) =>
      let (decimals, rest) := places rest
      match exponent? rest with
      | some (exponent, rest) =>
          .ok (.float (.ofDecimal negative (Nat.ofDigitChars 10 (whole ++ decimals) 0)
            (exponent - decimals.length)), rest)
      | none =>
          if decimals.isEmpty then
            match Numeral.read whole with
            | .error fault => .error (.overlong fault)
            | .ok n => .ok (.int (if negative then -(n : Int) else n), rest)
          else
            .ok (.float (.ofDecimal negative (Nat.ofDigitChars 10 (whole ++ decimals) 0)
              (-decimals.length)), rest)

def readAtom : List CodePoint → Except Stop (Value × List CodePoint)
  | 'n' :: 'u' :: 'l' :: 'l' :: rest => .ok (.null, rest)
  | 't' :: 'r' :: 'u' :: 'e' :: rest => .ok (.bool true, rest)
  | 'f' :: 'a' :: 'l' :: 's' :: 'e' :: rest => .ok (.bool false, rest)
  | 'N' :: 'a' :: 'N' :: rest => .ok (.float .nan, rest)
  | 'I' :: 'n' :: 'f' :: 'i' :: 'n' :: 'i' :: 't' :: 'y' :: rest =>
      .ok (.float (.infinity false), rest)
  | '-' :: 'I' :: 'n' :: 'f' :: 'i' :: 'n' :: 'i' :: 't' :: 'y' :: rest =>
      .ok (.float (.infinity true), rest)
  | '-' :: rest => readNumber ('-' :: rest) true rest
  | cs => readNumber cs false cs

def goInside (room : Nat) (container : TooDeep) : Except Stop Nat :=
  match room with
  | 0 => .error (.tooDeep container)
  | room + 1 => .ok room

mutual

/-- A value; `room` bounds how many lists and objects stand inside each other in it. -/
def readValue : (fuel : Nat) → (room : Nat) → List CodePoint →
    Except Stop (Value × List CodePoint)
  | 0, _, cs => .error (.flaw .value cs)
  | fuel + 1, room, cs =>
      match cs with
      | '"' :: rest => do
          let (text, left) ← readString ('"' :: rest) [] rest
          return (.str (.ofCodes text), left)
      | '[' :: rest => do
          let room ← goInside room .list
          match skip rest with
          | ']' :: left => return (.list [], left)
          | inner =>
              let (items, left) ← readItems fuel room [] inner
              return (.list items, left)
      | '\x7b' :: rest => do
          let room ← goInside room .object
          match skip rest with
          | '\x7d' :: left => return (.map [], left)
          | inner =>
              let (members, left) ← readMembers fuel room [] inner
              return (.map (Value.entriesOf members), left)
      | cs => readAtom cs

/-- The items of a list up to its closing bracket, `done` being those before in reverse; at least
one is left. -/
def readItems : (fuel : Nat) → (room : Nat) → (done : List Value) →
    List CodePoint → Except Stop (List Value × List CodePoint)
  | 0, _, _, cs => .error (.flaw .value cs)
  | fuel + 1, room, done, cs => do
      let (item, left) ← readValue fuel room cs
      match skip left with
      | ']' :: left => return ((item :: done).reverse, left)
      | ',' :: left => readItems fuel room (item :: done) (skip left)
      | left => .error (.flaw .comma left)

/-- The members of an object up to its closing brace, `done` being those before in reverse; at least
one is left. -/
def readMembers : (fuel : Nat) → (room : Nat) → (done : List (Value × Value)) →
    List CodePoint → Except Stop (List (Value × Value) × List CodePoint)
  | 0, _, _, cs => .error (.flaw .value cs)
  | fuel + 1, room, done, cs =>
      match cs with
      | '"' :: rest => do
          let (name, left) ← readString ('"' :: rest) [] rest
          match skip left with
          | ':' :: left =>
              let (value, left) ← readValue fuel room (skip left)
              let member := (Value.str (.ofCodes name), value)
              match skip left with
              | '\x7d' :: left => return ((member :: done).reverse, left)
              | ',' :: left => readMembers fuel room (member :: done) (skip left)
              | left => .error (.flaw .comma left)
          | left => .error (.flaw .colon left)
      | cs => .error (.flaw .name cs)

end

def readDocument (cs : List CodePoint) : Except Stop Value := do
  let (value, left) ← readValue (2 * cs.length + 2) nestingLimit (skip cs)
  match skip left with
  | [] => return value
  | left => .error (.flaw .extra left)

/-- The only value of a text that does not start with a byte order mark. -/
def readText (cs : List CodePoint) : Except Stop Value :=
  if cs.head? = some (.char '\uFEFF') then .error (.flaw .byteOrderMark cs) else readDocument cs

/-- Why a text is no document: a flaw with its place, a number that is too long, or nesting that is
too deep. -/
inductive ReadFault
  | malformed (flaw : Flaw) (line column position : Nat)
  | overlong (fault : Numeral.Overlong)
  | tooDeep (fault : TooDeep)
deriving DecidableEq, Repr

def ReadFault.message : ReadFault → String
  | .malformed flaw line column position =>
      s!"{flaw.message}: line {line} column {column} (char {position})"
  | .overlong fault => fault.message
  | .tooDeep fault => fault.message

def Stop.toFault (cs : List CodePoint) : Stop → ReadFault
  | .overlong fault => .overlong fault
  | .tooDeep fault => .tooDeep fault
  | .flaw kind left =>
      let position := cs.length - left.length
      let before := cs.take position
      let line := 1 + before.count (.char '\n')
      let column := 1 + (before.reverse.takeWhile (· ≠ .char '\n')).length
      .malformed kind line column position

def parse (text : LooseText) : Except ReadFault Value :=
  match readText text.codes with
  | .ok value => .ok value
  | .error stop => .error (stop.toFault text.codes)

end TransparencyLog.Json
