import TransparencyLog.Bytes.Base64
import TransparencyLog.Text.Blank
import TransparencyLog.Text.Line
import TransparencyLog.Text.Utf8

/-!
Octets between labelled lines of text: base64 in lines of sixty-four digits, with header lines
before it where there is an empty line between. A text is read as a whole: one block that is not
well formed spoils all others.
-/

namespace TransparencyLog.Pem

/-- Pieces of at most `size` characters, in order; `fuel` bounds their number. -/
def chunks (size : Nat) : (fuel : Nat) → List Char → List (List Char)
  | 0, _ => []
  | fuel + 1, cs =>
      if cs.isEmpty then [] else cs.take size :: chunks size fuel (cs.drop size)

def openingMark : String := "-----BEGIN "

def closingMark : String := "-----END "

def labelMark : String := "-----"

def write (label : String) (octets : Bytes) : Bytes :=
  let cs := Base64.chars octets
  let lines := (chunks 64 cs.length cs).map String.ofList
  let opening := openingMark ++ label ++ labelMark
  let closing := closingMark ++ label ++ labelMark
  Bytes.ofAscii (String.join (([opening] ++ lines ++ [closing]).map (· ++ "\n")))

/-- A block of text: its label, its headers and its octets. -/
structure Block where
  label : String
  headers : List (String × String)
  octets : Bytes
deriving DecidableEq, Repr

def Block.header? (block : Block) (name : String) : Option String :=
  block.headers.reverse.lookup name

/-- Looks for a mark of which `left` is still to come; `passed` holds what has gone by, the latest
octet first. An octet that breaks a match off does not start another one. -/
def seek? (mark left passed : Bytes) : Bytes → Option (Bytes × Bytes)
  | [] => none
  | b :: rest =>
      match left with
      | [] => none
      | next :: more =>
          if b ≠ next then seek? mark mark (b :: passed) rest
          else if more.isEmpty then some ((passed.drop (mark.length - 1)).reverse, rest)
          else seek? mark more (b :: passed) rest

def splitAt? (mark : String) (text : Bytes) : Option (Bytes × Bytes) :=
  let mark := Bytes.ofAscii mark
  seek? mark mark [] text

/-- A block as it stands in a text. -/
structure Span where
  label : Bytes
  body : Bytes
  endLabel : Bytes

def isGap (b : UInt8) : Bool :=
  [0x20, 0x09, 0x0A, 0x0D].contains b

def next? (text : Bytes) : Option (Span × Bytes) := do
  let (_, rest) ← splitAt? openingMark text
  let (label, rest) ← splitAt? labelMark rest
  let (body, rest) ← splitAt? closingMark (rest.dropWhile isGap)
  let (endLabel, rest) ← splitAt? labelMark rest
  return (⟨label, body, endLabel⟩, rest.dropWhile isGap)

def spans : (fuel : Nat) → Bytes → List Span
  | 0, _ => []
  | fuel + 1, text =>
      match next? text with
      | none => []
      | some (span, rest) => span :: spans fuel rest

def splitBody (body : Bytes) : Bytes × Bytes :=
  ((splitAt? "\n\n" body).orElse fun _ => splitAt? "\r\n\r\n" body).getD ([], body)

def readHeader? (line : List Char) : Option (String × String) :=
  let tidy := fun cs => String.ofList (Text.trim Text.isWhiteSpace cs)
  match line.dropWhile (· ≠ ':') with
  | [] => none
  | _ :: value => some (tidy (line.takeWhile (· ≠ ':')), tidy value)

def readHeaders? (cs : List Char) : Option (List (String × String)) :=
  let lines := Text.splitLines cs
  (if lines.getLast? = some [] then lines.dropLast else lines).mapM readHeader?

/-- The octets that digits spell, blanks left out; their base64 text is the digits again. -/
def readDigits? (cs : List Char) : Option Bytes :=
  let digits := cs.filter fun c => !Text.isWhiteSpace c
  match Base64.read digits with
  | .ok octets => if Base64.chars octets = digits then some octets else none
  | .error _ => none

def Span.block? (span : Span) : Option Block := do
  let label ← (Utf8.decode span.label).toOption
  let endLabel ← (Utf8.decode span.endLabel).toOption
  let (headers, digits) := splitBody span.body
  let headers ← readHeaders? (← (Utf8.decodeChars headers).toOption)
  let octets ← readDigits? (← (Utf8.decodeChars digits).toOption)
  if label.isEmpty ∨ label ≠ endLabel then none else return ⟨label, headers, octets⟩

def read? (text : Bytes) : Option (List Block) :=
  (spans text.length text).mapM Span.block?

end TransparencyLog.Pem
