import TransparencyLog.Proofs.Command.Output
import TransparencyLog.Proofs.Command.Task
import TransparencyLog.Proofs.Record.Appending

namespace TransparencyLog.Command

open FileTree

/-- What comes to a package: octets that a key signs, and the id that the key goes by. -/
structure Addition where
  package : String
  content : Bytes
  keyId : String
  key : SigningKey
deriving DecidableEq

namespace Addition

def record (addition : Addition) : LogRecord :=
  ⟨addition.content, addition.keyId, addition.key.signText addition.content⟩

end Addition

/-- What a command is to add, where its content and its key can be read. -/
def SignRecordOptions.addition? (options : SignRecordOptions) (files : FileTree) :
    Option Addition :=
  match files.read options.contentPath, KeyPair.load files options.keyPath with
  | .ok content, .ok key =>
      some ⟨options.package, content, (nonempty? options.keyId).getD key.keyId, key⟩
  | _, _ => none

/-- The record has been appended, and the console has refused to show that. -/
structure SignRecordOptions.IsUnshown (options : SignRecordOptions) (files : FileTree)
    (addition : Addition) (ending : Ending) (files' : FileTree) : Prop where
  quiet : options.json = false
  added : options.addition? files = some addition
  appended : ∃ index,
    (LogResponse.append options.logs options.package addition.record).perform files =
      (.ok index, files')
  refused : ∃ fault, ending = .broken (.console fault)

namespace Run

variable {console : Console} {state : State} {options : SignRecordOptions}

open LogResponse

end Run

variable {suite : SignatureSuite} {console : Console} {request : Request}
  {options : SignRecordOptions} {files : FileTree} {tally : Tally}

end TransparencyLog.Command
