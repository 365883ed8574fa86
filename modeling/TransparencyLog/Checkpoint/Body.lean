import TransparencyLog.Decimal.Numeral
import TransparencyLog.Text.Loose

namespace TransparencyLog

/-- The statements of a checkpoint. -/
structure CheckpointBody where
  origin : String
  size : Int
  rootHash : String
  extensions : List (String × String)
deriving DecidableEq, Repr

namespace CheckpointBody

/-- The names of the fields that every checkpoint has, in their order. -/
def requiredNames : List String := ["origin", "size", "root"]

def fields (body : CheckpointBody) : List (String × String) :=
  [("origin", body.origin), ("size", String.ofList (Numeral.chars body.size)),
    ("root", body.rootHash)] ++ body.extensions

def line (field : String × String) : String :=
  field.1 ++ ": " ++ field.2

def lines (body : CheckpointBody) : List String :=
  body.fields.map line

def text (body : CheckpointBody) : String :=
  String.join (body.lines.map (· ++ "\n"))

def octets (body : CheckpointBody) : Bytes :=
  Utf8.encode body.text

def rootOctets (body : CheckpointBody) : Except Hex.Fault Bytes :=
  Hex.decode body.rootHash

end CheckpointBody

/-- What a checkpoint may be made to state. -/
structure CheckpointDraft where
  origin : LooseText
  size : Int
  rootHash : LooseText
  extensions : List (LooseText × LooseText)
deriving DecidableEq, Repr

/-- Statements as a draft. -/
def CheckpointBody.draft (body : CheckpointBody) : CheckpointDraft where
  origin := body.origin
  size := body.size
  rootHash := body.rootHash
  extensions := body.extensions.map fun field => (.whole field.1, .whole field.2)

namespace CheckpointDraft

def fields (draft : CheckpointDraft) : List (LooseText × LooseText) :=
  ("origin", draft.origin) :: ("size", String.ofList (Numeral.chars draft.size)) ::
    ("root", draft.rootHash) :: draft.extensions

def line (field : LooseText × LooseText) : List CodePoint :=
  field.1.codes ++ [.char ':', .char ' '] ++ field.2.codes

def codes (draft : CheckpointDraft) : List CodePoint :=
  draft.fields.flatMap fun field => line field ++ [.char '\n']

/-- Why a draft has no octets: its size has too many digits, or one of its texts is torn. -/
inductive Fault
  | overlong (fault : Numeral.Overlong)
  | encoding (fault : EncodingFault)
deriving DecidableEq, Repr

def Fault.message : Fault → String
  | .overlong fault => fault.message
  | .encoding fault => fault.message

def octets (draft : CheckpointDraft) : Except Fault Bytes :=
  match Numeral.write draft.size with
  | .error fault => .error (.overlong fault)
  | .ok _ => (CodePoint.encode draft.codes).mapError .encoding

end CheckpointDraft

end TransparencyLog
