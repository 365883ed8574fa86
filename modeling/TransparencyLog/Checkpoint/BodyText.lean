import TransparencyLog.Checkpoint.Body
import TransparencyLog.Text.Blank
import TransparencyLog.Text.Line
import TransparencyLog.Text.Quoted
import TransparencyLog.Value

/-!
Checkpoints from text. Line ends may be LF, CRLF or CR, blanks may stand around values and after
lines, and blank lines at the end; all else must be as in the canonical text.
-/

namespace TransparencyLog.CheckpointBody

/-- What is wrong with a text that is no checkpoint. Lines count from one. -/
inductive Malformation
  | notBytes (typeName : String)
  | noContent
  | nulOctet
  | encoding (fault : DecodingFault)
  | noLines
  | blankLine (line : Nat)
  | noColon (line : Nat) (text : String)
  | badName (line : Nat) (name : String)
  | noValue (line : Nat) (name : String)
  | fewLines (count : Nat)
  | wrongField (line : Nat) (expected name : String)
  | badSize (text : String)
  | badRoot (text : String)
  | duplicateField (name : String)
deriving DecidableEq, Repr

def Malformation.message : Malformation → String
  | .notBytes typeName => s!"Checkpoint content must be bytes, got {typeName}"
  | .noContent => "Checkpoint content is empty"
  | .nulOctet => "Checkpoint contains NUL byte"
  | .encoding fault => s!"Checkpoint is not valid UTF-8: {fault.message}"
  | .noLines => "Checkpoint is empty"
  | .blankLine line => s!"Line {line}: blank line inside checkpoint"
  | .noColon line text => s!"Line {line}: expected 'key: value', got {Text.quoted text}"
  | .badName line name => s!"Line {line}: invalid key {Text.quoted name}"
  | .noValue line name => s!"Line {line}: empty value for {Text.quoted name}"
  | .fewLines count => s!"Checkpoint needs origin, size, root lines, got {count} line(s)"
  | .wrongField line expected name =>
      s!"Line {line}: expected {Text.quoted expected}, got {Text.quoted name}"
  | .badSize text => s!"Invalid tree size {Text.quoted text}"
  | .badRoot text => s!"Root hash must be 64 hex characters, got {Text.quoted text}"
  | .duplicateField name => s!"Duplicate checkpoint field {Text.quoted name}"

/-- Why a text is no checkpoint: it is malformed, or its size has too many digits. -/
inductive ReadFault
  | malformed (cause : Malformation)
  | overlong (fault : Numeral.Overlong)
deriving DecidableEq, Repr

def ReadFault.message : ReadFault → String
  | .malformed cause => cause.message
  | .overlong fault => fault.message

/-- The lines of a text without the blanks after them and without the empty ones at the end. -/
def trimmedLines (cs : List Char) : List (List Char) :=
  let lines := (Text.splitLines (Text.unifyLineEnds cs)).map (Text.trimEnd Text.isBlank)
  (lines.reverse.dropWhile List.isEmpty).reverse

def contentLines (octets : Bytes) : Except Malformation (List (List Char)) :=
  if octets.isEmpty then .error .noContent
  else if octets.contains 0 then .error .nulOctet
  else
    match Utf8.decodeChars octets with
    | .error fault => .error (.encoding fault)
    | .ok cs =>
        let lines := trimmedLines cs
        if lines.isEmpty then .error .noLines
        else
          match lines.findIdx? List.isEmpty with
          | some index => .error (.blankLine (index + 1))
          | none => .ok lines

def isLetter (c : Char) : Bool :=
  decide ('a' ≤ c) && decide (c ≤ 'z')

def isDigit (c : Char) : Bool :=
  decide ('0' ≤ c) && decide (c ≤ '9')

def isNameChar (c : Char) : Bool :=
  isLetter c || isDigit c || c = '_' || c = '.' || c = '-'

def isName : List Char → Bool
  | [] => false
  | c :: rest => isLetter c && rest.all isNameChar

def readLine (number : Nat) (line : List Char) : Except Malformation (String × String) :=
  let name := line.takeWhile (· ≠ ':')
  match line.dropWhile (· ≠ ':') with
  | [] => .error (.noColon number (String.ofList line))
  | _ :: rest =>
      if isName name then
        let value := Text.trim Text.isBlank rest
        if value.isEmpty then .error (.noValue number (String.ofList name))
        else .ok (String.ofList name, String.ofList value)
      else .error (.badName number (String.ofList name))

def readLines (number : Nat) : List (List Char) → Except Malformation (List (String × String))
  | [] => .ok []
  | line :: rest => do
      let field ← readLine number line
      return field :: (← readLines (number + 1) rest)

/-- Whether characters are a size: digits of which the first is no needless zero. -/
def isSize : List Char → Bool
  | ['0'] => true
  | c :: rest => isDigit c && c ≠ '0' && rest.all isDigit
  | [] => false

def isRootHash (cs : List Char) : Bool :=
  decide (cs.length = 64) && cs.all fun c => (Hex.value? c).isSome

/-- The first name that stands among the names before it or in `seen`. -/
def firstDuplicate? (seen : List String) : List String → Option String
  | [] => none
  | name :: rest =>
      if seen.contains name then some name else firstDuplicate? (name :: seen) rest

/-- The first of the names that differs from the one required in its place. -/
def firstMismatch? (line : Nat) : (required names : List String) → Option Malformation
  | expected :: required, name :: names =>
      if name = expected then firstMismatch? (line + 1) required names
      else some (.wrongField line expected name)
  | _, _ => none

def ofFields (fields : List (String × String)) : Except ReadFault CheckpointBody :=
  match fields with
  | (_, origin) :: (_, size) :: (_, root) :: extensions =>
      match firstMismatch? 1 requiredNames (fields.map (·.1)) with
      | some cause => .error (.malformed cause)
      | none =>
          if isSize size.toList then
            match Numeral.read size.toList with
            | .error fault => .error (.overlong fault)
            | .ok n =>
                if isRootHash root.toList then
                  match firstDuplicate? requiredNames (extensions.map (·.1)) with
                  | some name => .error (.malformed (.duplicateField name))
                  | none => .ok ⟨origin, n, root, extensions⟩
                else .error (.malformed (.badRoot root))
          else .error (.malformed (.badSize size))
  | _ => .error (.malformed (.fewLines fields.length))

def read (octets : Bytes) : Except ReadFault CheckpointBody :=
  match contentLines octets with
  | .error cause => .error (.malformed cause)
  | .ok lines =>
      match readLines 1 lines with
      | .error cause => .error (.malformed cause)
      | .ok fields => ofFields fields

def readValue (value : Value) : Except ReadFault CheckpointBody :=
  match value.octets? with
  | some octets => read octets
  | none => .error (.malformed (.notBytes value.typeName))

def canonicalize (octets : Bytes) : Except ReadFault Bytes :=
  match read octets with
  | .ok body => .ok body.octets
  | .error fault => .error fault

end TransparencyLog.CheckpointBody
