import TransparencyLog.FileTree.Document
import TransparencyLog.Json.Load
import TransparencyLog.LogResponse

namespace TransparencyLog.LogResponse

/-- Adds an item to the list under a name, which comes last if it is not there. Returns the place of
the item as well. -/
def addUnder (name : LooseText) (item : Value) : List (Value × Value) → List (Value × Value) × Nat
  | [] => ([(.str name, .list [item])], 0)
  | (key, value) :: rest =>
      if key.sameKey (.str name) then
        match value with
        | .list items => ((key, .list (items ++ [item])) :: rest, items.length)
        | value => ((key, value) :: rest, 0)
      else
        let (entries, index) := addUnder name item rest
        ((key, value) :: entries, index)

def addRecord (package : LooseText) (record : LogRecord) :
    List (Value × Value) → List (Value × Value) × Nat
  | [] => ([], 0)
  | (.str "packages", .map packages) :: rest =>
      let (packages, index) := addUnder package record.toValue packages
      ((.str "packages", .map packages) :: rest, index)
  | entry :: rest =>
      let (entries, index) := addRecord package record rest
      (entry :: entries, index)

def blank : Value := .object [("packages", .map [])]

inductive AppendFault
  | file (fault : FileFault)
  | encoding (fault : DecodingFault)
  | intake (fault : IntakeFault)
  | shape (fault : Fault)
  | print (fault : Json.PrintFault)

def AppendFault.message : AppendFault → String
  | .file fault => fault.message
  | .encoding fault => fault.message
  | .intake fault => fault.message
  | .shape fault => fault.message
  | .print fault => fault.message

/-- The document in the file at a path, which has to be an answer of a log. -/
def loadStored (path : String) (tree : FileTree) : Except AppendFault Value :=
  match tree.read path with
  | .error fault => .error (.file fault)
  | .ok octets =>
      match Json.fileText octets with
      | .error fault => .error (.encoding fault)
      | .ok text =>
          match loadDocument "logs" (.str text) with
          | .error fault => .error (.intake fault)
          | .ok document =>
              match ofValue document with
              | .error fault => .error (.shape fault)
              | .ok _ => .ok document

/-- Appends a record to the document at a path, which comes to be if nothing stands there. Returns
the place of the record in its package. -/
def append (path : String) (package : LooseText) (record : LogRecord) :
    FileAction AppendFault Nat := do
  FileAction.rename .file (FileAction.lock path)
  let document ←
    if ← FileAction.holds path then FileAction.ask (loadStored path) else pure blank
  match document with
  | .map members =>
      let (members, index) := addRecord package record members
      FileAction.rename
        (fun
          | .file fault => .file fault
          | .print fault => .print fault)
        (FileAction.store path (.map members))
      return index
  | value => throw (.shape (.document ⟨"logs", .notObject value.typeName⟩))

end TransparencyLog.LogResponse
