import TransparencyLog.FileTree.Document
import TransparencyLog.Json.Load
import TransparencyLog.Key.Registry

namespace TransparencyLog.RegistryFile

inductive Fault
  | missing (fault : FileFault)
  | closed (path : String) (fault : FileFault)
  | unreadable (path : String) (flaw : Json.Flaw) (line column position : Nat)
  | undecodable (fault : DecodingFault)
  | overlong (fault : Numeral.Overlong)
  | tooDeep (fault : Json.TooDeep)
  | shape (path : String)
  | entry (fault : KeyEntry.Fault)
  | refused (fault : Registry.Fault)
  | file (fault : FileFault)
  | print (fault : Json.PrintFault)
deriving DecidableEq, Repr

def Fault.message : Fault → String
  | .missing fault => fault.message
  | .closed path fault => s!"Cannot read key registry {path}: {fault.message}"
  | .unreadable path flaw line column position =>
      s!"Cannot read key registry {path}: " ++
        (Json.ReadFault.malformed flaw line column position).message
  | .undecodable fault => fault.message
  | .overlong fault => fault.message
  | .tooDeep fault => fault.message
  | .shape path => s!"Key registry {path} must be an object with a 'keys' list"
  | .entry fault => fault.message
  | .refused fault => fault.message
  | .file fault => fault.message
  | .print fault => fault.message

/-- The kinds of faults that callers tell apart. -/
inductive Kind
  | registry
  | missingFile
  | file
  | encoding
  | number
  | nesting
  | value
deriving DecidableEq, Repr

def Fault.kind : Fault → Kind
  | .missing _ => .missingFile
  | .file _ => .file
  | .undecodable _ => .encoding
  | .overlong _ => .number
  | .tooDeep _ => .nesting
  | .print _ => .value
  | _ => .registry

def Fault.ofStore : StoreFault → Fault
  | .file fault => .file fault
  | .print fault => .print fault

def document (entries : List KeyEntry) : Value :=
  .object [("keys", .list (entries.map KeyEntry.toValue))]

def readEntries : List Value → Except KeyEntry.Fault (List KeyEntry)
  | [] => .ok []
  | item :: rest => do
      let entry ← KeyEntry.ofValue item
      return entry :: (← readEntries rest)

def entriesOfDocument (path : String) (document : Value) : Except Fault (List KeyEntry) :=
  match document with
  | .map members =>
      match Value.lookup? "keys" members with
      | some (.list items) =>
          match readEntries items with
          | .ok entries => .ok entries
          | .error fault => .error (.entry fault)
      | _ => .error (.shape path)
  | _ => .error (.shape path)

def entriesOfOctets (path : String) (octets : Bytes) : Except Fault (List KeyEntry) :=
  match Json.loadFile octets with
  | .ok document => entriesOfDocument path document
  | .error (.unreadable flaw line column position) =>
      .error (.unreadable path flaw line column position)
  | .error (.undecodable fault) => .error (.undecodable fault)
  | .error (.overlong fault) => .error (.overlong fault)
  | .error (.tooDeep fault) => .error (.tooDeep fault)
  | .error (.notText _) => .error (.shape path)

def entries (tree : FileTree) (path : String) : Except Fault (List KeyEntry) :=
  match tree.read path with
  | .error (.blocked .missing path) => .error (.missing (.blocked .missing path))
  | .error .nulInPath => .error (.file .nulInPath)
  | .error fault => .error (.closed path fault)
  | .ok octets => entriesOfOctets path octets

def load (suite : SignatureSuite) (tree : FileTree) (path : String) : Except Fault Registry :=
  match entries tree path with
  | .error fault => .error fault
  | .ok entries =>
      match Registry.ofEntries suite entries with
      | .ok registry => .ok registry
      | .error fault => .error (.refused fault)

/-- The entries that loading the file at a path adds, up to one that is refused. -/
def admitted (suite : SignatureSuite) (tree : FileTree) (path : String) : List KeyEntry :=
  match entries tree path with
  | .error _ => []
  | .ok entries => (Registry.empty.grow suite entries).registry.entries

def write (path : String) (entries : List KeyEntry) : FileAction Fault Unit := do
  FileAction.rename .file (FileAction.lock path)
  FileAction.rename .ofStore (FileAction.store path (document entries))

/-- Where a registry that has been loaded from a file is saved: at a path of its own unless another
one is given. -/
def target (own : String) (given : Option String) : String :=
  (given.filter (· ≠ "")).getD own

/-- Saves a registry that has been loaded from a file. Returns the path. -/
def save (own : String) (given : Option String) (registry : Registry) :
    FileAction Fault String := do
  write (target own given) registry.entries
  return target own given

/-- Adds an entry to the file at a path, which comes to be if nothing stands there; the turn to
change it has been taken. Returns the entries after it. -/
def extend (suite : SignatureSuite) (path : String) (entry : KeyEntry) :
    FileAction Fault (List KeyEntry) := do
  let registry ←
    if ← FileAction.holds path then FileAction.ask (load suite · path) else pure Registry.empty
  match registry.add suite entry with
  | .error fault => throw (.refused fault)
  | .ok registry =>
      FileAction.rename .ofStore (FileAction.store path (document registry.entries))
      return registry.entries

/-- Takes the turn to change the file at a path and adds an entry to it. Returns the entries after
it. -/
def append (suite : SignatureSuite) (path : String) (entry : KeyEntry) :
    FileAction Fault (List KeyEntry) := do
  FileAction.rename .file (FileAction.lock path)
  extend suite path entry

end TransparencyLog.RegistryFile
