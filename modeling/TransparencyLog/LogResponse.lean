import TransparencyLog.Record

namespace TransparencyLog

/-- The records under their package digests, in the order of the document. -/
structure LogResponse where
  packages : List (Value × List LogRecord)

namespace LogResponse

/-- Why a document is no answer: its shape, or a digest in it that cannot be quoted. -/
inductive Fault
  | document (fault : DocumentFault)
  | unquotable (fault : Value.QuoteFault)
deriving DecidableEq, Repr

def Fault.message : Fault → String
  | .document fault => fault.message
  | .unquotable fault => fault.message

def packagesPath : String := "logs.packages"

def readRecords (path : String) (index : Nat) : List Value → Except DocumentFault (List LogRecord)
  | [] => .ok []
  | entry :: rest => do
      let record ← LogRecord.ofValue s!"{path}[{index}]" entry
      return record :: (← readRecords path (index + 1) rest)

def readPackage (path : String) : Value → Except DocumentFault (List LogRecord)
  | .list entries => readRecords path 0 entries
  | value => .error ⟨path, .notList value.typeName⟩

def readPackages : List (Value × Value) → Except Fault (List (Value × List LogRecord))
  | [] => .ok []
  | (digest, entries) :: rest =>
      match digest.quote with
      | .error fault => .error (.unquotable fault)
      | .ok quoted =>
          match readPackage s!"{packagesPath}[{quoted}]" entries with
          | .error fault => .error (.document fault)
          | .ok records => do return (digest, records) :: (← readPackages rest)

def ofValue : Value → Except Fault LogResponse
  | .map members =>
      match Value.lookup? "packages" members with
      | some (.map packages) => do return ⟨← readPackages packages⟩
      | _ => .error (.document ⟨packagesPath, .noObject⟩)
  | value => .error (.document ⟨"logs", .notObject value.typeName⟩)

def records? (response : LogResponse) (package : LooseText) : Option (List LogRecord) :=
  (response.packages.find? fun entry => entry.1.sameKey (.str package)).map (·.2)

def recordsOfPackage (document : Value) (package : LooseText) : Except Fault (List LogRecord) := do
  let response ← ofValue document
  match response.records? package with
  | some records => return records
  | none => .error (.document ⟨packagesPath, .noEntry (Text.quoted package)⟩)

end LogResponse

end TransparencyLog
