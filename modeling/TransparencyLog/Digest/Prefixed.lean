import TransparencyLog.Bytes.Hex
import TransparencyLog.Digest.Sha2

namespace TransparencyLog.PrefixedDigest

def label : String := "sha256:"

def ofOctets (digest : Bytes) : String :=
  label ++ Hex.encode digest

def ofMessage (message : Bytes) : String :=
  ofOctets (sha256 message)

def isDigit (c : Char) : Bool :=
  (decide ('0' ≤ c) && decide (c ≤ '9')) || (decide ('a' ≤ c) && decide (c ≤ 'f'))

/-- The digits of a digest text; one line feed after them is passed over. -/
def digits? (text : String) : Option (List Char) :=
  match label.toList.isPrefixOf? text.toList with
  | none => none
  | some rest =>
      let digits := rest.take 64
      let tail := rest.drop 64
      if digits.length = 64 ∧ digits.all isDigit ∧ (tail = [] ∨ tail = ['\n']) then some digits
      else none

/-- Whether a text is a digest text; one line feed after it is passed over. -/
def accepts (text : String) : Bool :=
  (digits? text).isSome

end TransparencyLog.PrefixedDigest
