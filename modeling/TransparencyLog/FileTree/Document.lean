import TransparencyLog.FileTree.Action
import TransparencyLog.Json.Printer
import TransparencyLog.Text.Utf8

/-!
Documents that are read, changed and written back. Changes to one document take turns on a file
beside it, and the new text replaces the old one as a whole.
-/

namespace TransparencyLog

inductive StoreFault
  | file (fault : FileFault)
  | print (fault : Json.PrintFault)
deriving DecidableEq, Repr

def StoreFault.message : StoreFault → String
  | .file fault => fault.message
  | .print fault => fault.message

namespace FileAction

def lock (path : String) : FileAction FileFault Unit := do
  ensureParent path
  touch (path ++ ".lock")

def documentOctets (document : Value) : Except Json.PrintFault Bytes :=
  match Json.print .indented document with
  | .ok text => .ok (Utf8.encode (text ++ "\n"))
  | .error fault => .error fault

def store (path : String) (document : Value) : FileAction StoreFault Unit := do
  let draft := path ++ ".tmp"
  rename .file (ensureParent path)
  rename .file (write draft [])
  match documentOctets document with
  | .error fault => throw (.print fault)
  | .ok octets =>
      rename .file (write draft octets)
      rename .file (replace draft path)

end FileAction

end TransparencyLog
