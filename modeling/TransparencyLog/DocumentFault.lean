import TransparencyLog.Bytes.Base64
import TransparencyLog.Json.Load
import TransparencyLog.Value.Quoted

namespace TransparencyLog

/-- What is wrong at a place of a document. -/
inductive DocumentFlaw
  | unreadable (flaw : Json.Flaw) (line column position : Nat)
  | undecodable (fault : DecodingFault)
  | notObject (typeName : String)
  | noObject
  | missing (name : String)
  | notText (name typeName : String)
  | notBase64 (name : String) (fault : Base64.Fault)
  | notList (typeName : String)
  | noEntry (quoted : String)
deriving DecidableEq, Repr

def DocumentFlaw.message : DocumentFlaw → String
  | .unreadable flaw line column position =>
      s!": invalid JSON: {(Json.ReadFault.malformed flaw line column position).message}"
  | .undecodable fault => s!": invalid JSON: {fault.message}"
  | .notObject typeName => s!": expected object, got {typeName}"
  | .noObject => ": expected object"
  | .missing name => s!".{name}: missing"
  | .notText name typeName => s!".{name}: expected string, got {typeName}"
  | .notBase64 name fault => s!".{name}: not valid base64: {fault.message}"
  | .notList typeName => s!": expected list of records, got {typeName}"
  | .noEntry quoted => s!": no entry for {quoted}"

/-- A flaw and its place. -/
structure DocumentFault where
  path : String
  flaw : DocumentFlaw
deriving DecidableEq, Repr

def DocumentFault.message (fault : DocumentFault) : String :=
  fault.path ++ fault.flaw.message

def textMember (path : String) (members : List (Value × Value)) (name : String) :
    Except DocumentFault LooseText :=
  match Value.lookup? name members with
  | none => .error ⟨path, .missing name⟩
  | some (.str text) => .ok text
  | some value => .error ⟨path, .notText name value.typeName⟩

/-- Why something from outside is no document of the expected shape; octets that are not put down to
the document, numbers too long, nesting too deep, what is no text at all and a text that cannot be
encoded stand apart. -/
inductive IntakeFault
  | document (fault : DocumentFault)
  | undecodable (fault : DecodingFault)
  | overlong (fault : Numeral.Overlong)
  | tooDeep (fault : Json.TooDeep)
  | notText (typeName : String)
  | unencodable (fault : EncodingFault)
deriving DecidableEq, Repr

def IntakeFault.message : IntakeFault → String
  | .document fault => fault.message
  | .undecodable fault => fault.message
  | .overlong fault => fault.message
  | .tooDeep fault => fault.message
  | .notText typeName => (Json.LoadFault.notText typeName).message
  | .unencodable fault => fault.message

def IntakeFault.ofLoad (path : String) : Json.LoadFault → IntakeFault
  | .unreadable flaw line column position => .document ⟨path, .unreadable flaw line column position⟩
  | .undecodable fault => .document ⟨path, .undecodable fault⟩
  | .overlong fault => .overlong fault
  | .tooDeep fault => .tooDeep fault
  | .notText typeName => .notText typeName

def loadDocument (path : String) (value : Value) : Except IntakeFault Value :=
  match Json.load value with
  | .ok document => .ok document
  | .error fault => .error (.ofLoad path fault)

end TransparencyLog
