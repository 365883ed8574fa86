import TransparencyLog.Key.Entry

/-!
Key registries: which public key an id stands for. An id has at most one active entry, and the
octets of every key of a supported algorithm have been checked when its entry was added.
-/

namespace TransparencyLog

/-- Entries in the order in which they were added. -/
structure Registry where
  entries : List KeyEntry
deriving DecidableEq, Repr

namespace Registry

def empty : Registry := ⟨[]⟩

def resolve (registry : Registry) (keyId : LooseText) : Option PublicKey :=
  (registry.entries.find? fun entry => entry.active && decide (entry.keyId = keyId)).map
    (·.publicKey)

def contains (registry : Registry) (keyId : LooseText) : Bool :=
  (registry.resolve keyId).isSome

inductive Fault
  | material (keyId : LooseText) (fault : PublicKey.MaterialFault)
  | duplicate (keyId : LooseText)
deriving DecidableEq, Repr

def Fault.message : Fault → String
  | .material keyId fault => s!"Invalid key material for {Text.quoted keyId}: {fault.message}"
  | .duplicate keyId => s!"Duplicate active key id: {Text.quoted keyId}"

/-- Why the octets of a key of a supported algorithm cannot be used; any other key passes. -/
def unusable? (suite : SignatureSuite) (key : PublicKey) : Option PublicKey.MaterialFault :=
  key.scheme?.bind (PublicKey.materialFault? suite key.octets)

/-- Adds an entry; the octets of its key are looked at first, its id second. -/
def add (suite : SignatureSuite) (registry : Registry) (entry : KeyEntry) :
    Except Fault Registry :=
  match unusable? suite entry.publicKey with
  | some fault => .error (.material entry.keyId fault)
  | none =>
      if entry.active ∧ registry.contains entry.keyId then .error (.duplicate entry.keyId)
      else .ok ⟨registry.entries ++ [entry]⟩

/-- What comes of adding entries one by one: the registry up to the first refusal, and why. -/
structure Growth where
  registry : Registry
  fault? : Option Fault

def grow (suite : SignatureSuite) (registry : Registry) : List KeyEntry → Growth
  | [] => ⟨registry, none⟩
  | entry :: rest =>
      match registry.add suite entry with
      | .error fault => ⟨registry, some fault⟩
      | .ok registry => registry.grow suite rest

def ofEntries (suite : SignatureSuite) (entries : List KeyEntry) : Except Fault Registry :=
  match empty.grow suite entries with
  | ⟨registry, none⟩ => .ok registry
  | ⟨_, some fault⟩ => .error fault

end Registry

namespace TrustFault

/-- The kinds of errors by which a checkpoint or a record is not trusted. -/
inductive Kind
  | unknownKey
  | malformed
  | signatureInvalid
  | unsupportedAlgorithm
deriving DecidableEq, Repr

def Kind.label : Kind → String
  | .unknownKey => "UnknownKeyError"
  | .malformed => "MalformedCheckpointError"
  | .signatureInvalid => "SignatureInvalidError"
  | .unsupportedAlgorithm => "UnsupportedAlgorithmError"

/-- The class of an error of distrust: one of the kinds, or another one, which only a registry of
one's own raises. -/
inductive Class
  | listed (kind : Kind)
  | other (name : String)
deriving DecidableEq, Repr

end TrustFault

/-- Why a look-up fails: the id can be no key of a table, the registry raises an error of distrust
itself, or something else goes wrong. -/
inductive LookupFault
  | unkeyable (typeName : String)
  | trust (raised : TrustFault.Class) (message : String)
  | other (message : String)
deriving DecidableEq, Repr

def LookupFault.message : LookupFault → String
  | .unkeyable typeName => s!"unhashable type: '{typeName}'"
  | .trust _ message => message
  | .other message => message

/-- Whatever looks up keys: an id of any shape stands for a key, for none, or the look-up fails. -/
structure KeySource where
  resolve : Value → Except LookupFault (Option PublicKey)

/-- A registry as a source of keys: only texts are ids, and what can be no key of a table fails. -/
def Registry.source (registry : Registry) : KeySource where
  resolve
    | .str keyId => .ok (registry.resolve keyId)
    | value =>
        match value.unkeyable? with
        | some typeName => .error (.unkeyable typeName)
        | none => .ok none

end TransparencyLog
