import TransparencyLog.Checkpoint.RootIdentifier

namespace TransparencyLog

/-- A question to a log; no digest stands in it twice. -/
structure LogQuery where
  root : LooseText
  packages : List String
deriving DecidableEq, Repr

namespace LogQuery

inductive Fault
  | root (fault : RootIdentifier.TextFault)
  | notIterable (typeName : String)
  | digest (quoted : String)
  | unquotable (fault : Value.QuoteFault)
  | noDigest
deriving DecidableEq, Repr

def Fault.message : Fault → String
  | .root fault => fault.message
  | .notIterable typeName => s!"'{typeName}' object is not iterable"
  | .digest quoted => s!"Package digest must be 'sha256:<64 hex>', got {quoted}"
  | .unquotable fault => fault.message
  | .noDigest => "Log query needs at least one package digest"

/-- The kinds of faults that callers tell apart. -/
inductive Kind
  | value
  | type
  | nesting
deriving DecidableEq, Repr

def Fault.kind : Fault → Kind
  | .notIterable _ => .type
  | .root (.unquotable .tooDeep) | .unquotable .tooDeep => .nesting
  | _ => .value

def Fault.ofDigest (value : Value) : Fault :=
  match value.quote with
  | .ok quoted => .digest quoted
  | .error fault => .unquotable fault

/-- The digests among values, each in the place where it stands first; `seen` are those before. -/
def readDigests (seen : List String) : List Value → Except Fault (List String)
  | [] => .ok []
  | .str (.whole text) :: rest =>
      if PrefixedDigest.accepts text then
        if seen.contains text then readDigests seen rest
        else (text :: ·) <$> readDigests (text :: seen) rest
      else .error (.ofDigest (.str text))
  | value :: _ => .error (.ofDigest value)

/-- The question for a root and the digests that going through a value meets. -/
def build (root : LooseText) (digests : Value) : Except Fault LogQuery :=
  match RootIdentifier.ofValue (.str root) with
  | .error fault => .error (.root fault)
  | .ok _ =>
      match digests.elements? with
      | none => .error (.notIterable digests.typeName)
      | some values =>
          match readDigests [] values with
          | .error fault => .error fault
          | .ok [] => .error .noDigest
          | .ok packages => .ok ⟨root, packages⟩

def toValue (query : LogQuery) : Value :=
  .object [("root", .str query.root),
    ("packages", .object (query.packages.map fun digest => (.whole digest, .null)))]

end LogQuery

end TransparencyLog
