import TransparencyLog.Proofs.FileTree.Document
import TransparencyLog.Proofs.Record.Growth

namespace TransparencyLog

namespace FileTree

variable {path : String} {tree tree' : FileTree}

end FileTree

namespace FileAction

open FileTree

variable {ε ε' α β : Type} {action : FileAction ε α} {written : List Place} {path : String}
  {tree tree' : FileTree}

end FileAction

namespace LogResponse

open FileTree FileAction

variable {path : String} {package : LooseText} {record : LogRecord} {tree tree' : FileTree}
  {document : Value} {index : Nat}

/-- The file at a path holds the text of a document. -/
def Stores (tree : FileTree) (path : String) (document : Value) : Prop :=
  ∃ octets, tree.file? path = some octets ∧ Json.loadFile octets = .ok document

/-- The document of the file at a path, or the blank one where no file stands. -/
def Holds (tree : FileTree) (path : String) (document : Value) : Prop :=
  (∃ octets, tree.node? (placeOf path) = some (.file octets) ∧
    Json.loadFile octets = .ok document) ∨ tree.Lacks path ∧ document = blank

theorem Stores.holds (h : Stores tree path document) : Holds tree path document := by
  obtain ⟨octets, hfile, hload⟩ := h
  exact .inl ⟨octets, (file?_eq_some_iff.mp hfile).2, hload⟩

theorem loadFile_eq_ok_iff {octets : Bytes} :
    Json.loadFile octets = .ok document ↔
      ∃ text, Json.fileText octets = .ok text ∧ Json.loadText text = .ok document := by
  rw [Json.loadFile]
  cases Json.fileText octets with
  | error fault => simp
  | ok text => simp

theorem loadDocument_str_eq_ok_iff {what : String} {text : LooseText} :
    loadDocument what (.str text) = .ok document ↔ Json.loadText text = .ok document := by
  rw [loadDocument, Json.load]
  cases Json.loadText text with
  | error fault => simp
  | ok value => simp

/-- The document that a record is added to. -/
def standing (path : String) (tree : FileTree) : Except AppendFault Value :=
  if tree.holds path then loadStored path tree else .ok blank

theorem Stores.unique {other : Value} (h : Stores tree path document)
    (h' : Stores tree path other) : other = document := by
  obtain ⟨octets, hfile, hload⟩ := h
  obtain ⟨octets', hfile', hload'⟩ := h'
  obtain rfl := Option.some.inj (hfile.symm.trans hfile')
  exact Except.ok.inj (hload'.symm.trans hload)

/-- The numbers of the records in each package of a stored answer are not too long to be written. -/
def HasRoom (tree : FileTree) (path : String) : Prop :=
  ∀ octets document response, tree.node? (placeOf path) = some (.file octets) →
    Json.loadFile octets = .ok document → ofValue document = .ok response →
    ∀ entry ∈ response.packages, Numeral.IsShort entry.2.length

end LogResponse

end TransparencyLog
