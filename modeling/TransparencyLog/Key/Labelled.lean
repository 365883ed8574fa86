import TransparencyLog.Bytes.Base64
import TransparencyLog.Text.Quoted

namespace TransparencyLog.Labelled

def write (algorithm : LooseText) (octets : Bytes) : LooseText :=
  algorithm ++ (":" ++ Base64.encode octets : String)

inductive Fault
  | noLabel (text : LooseText)
  | payload (fault : Base64.Fault)
deriving DecidableEq, Repr

def Fault.message : Fault → String
  | .noLabel text => s!"Expected '<algorithm>:<base64>', got {Text.quoted text}"
  | .payload fault => fault.message

/-- The parts before and after the first colon; neither may be empty. -/
def split? (text : LooseText) : Option (LooseText × LooseText) :=
  let algorithm := text.codes.takeWhile (· ≠ .char ':')
  match text.codes.dropWhile (· ≠ .char ':') with
  | _ :: code :: payload =>
      if algorithm.isEmpty then none else some (.ofCodes algorithm, .ofCodes (code :: payload))
  | _ => none

def read (text : LooseText) : Except Fault (LooseText × Bytes) :=
  match split? text with
  | none => .error (.noLabel text)
  | some (algorithm, payload) =>
      match Base64.decode payload with
      | .error fault => .error (.payload fault)
      | .ok octets => .ok (algorithm, octets)

end TransparencyLog.Labelled
