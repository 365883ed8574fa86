import TransparencyLog.Digest.Prefixed
import TransparencyLog.Json.Printer

/-!
The canonical form of a value: lists for tuples, object names in increasing order of their code
points, no floating-point numbers. Its JSON text has no white space, so equal values have equal
digests. A value has to keep to a limit of shapes inside each other.
-/

namespace TransparencyLog.Json

inductive CanonicalFault
  | float
  | tooDeep
  | foreignKey (typeName : String)
deriving DecidableEq, Repr

def CanonicalFault.message : CanonicalFault → String
  | .float => "Canonical JSON does not allow floats"
  | .tooDeep => "maximum recursion depth exceeded"
  | .foreignKey typeName => s!"Canonical JSON keys must be str, got {typeName}"

def checkKeys : List (Value × Value) → Except CanonicalFault Unit
  | [] => .ok ()
  | (.str _, _) :: rest => checkKeys rest
  | (key, _) :: _ => .error (.foreignKey key.typeName)

def sortByName {α : Type} (members : List (LooseText × α)) : List (LooseText × α) :=
  members.mergeSort fun a b => decide (a.1 ≤ b.1)

def collect : List (LooseText × Except CanonicalFault Value) →
    Except CanonicalFault (List (Value × Value))
  | [] => .ok []
  | (name, result) :: rest => do
      let value ← result
      return (.str name, value) :: (← collect rest)

/-- How many lists and maps may stand inside each other in a value that has a canonical form. -/
def canonicalLimit : Nat := 490

def enterShape : (room : Nat) → Except CanonicalFault Nat
  | 0 => .error .tooDeep
  | room + 1 => .ok room

mutual

/-- The canonical form of a value; `room` bounds how many lists and maps stand inside each other in
it. -/
def canonicalizeIn (room : Nat) : Value → Except CanonicalFault Value
  | .map entries => do
      checkKeys entries
      let room ← enterShape room
      return .map (← collect (sortByName (canonicalizeMembers room entries)))
  | .list items | .tuple items => do
      let room ← enterShape room
      return .list (← canonicalizeItems room items)
  | .float _ => .error .float
  | value => .ok value

def canonicalizeItems (room : Nat) : List Value → Except CanonicalFault (List Value)
  | [] => .ok []
  | item :: rest => do
      let item ← canonicalizeIn room item
      return item :: (← canonicalizeItems room rest)

/-- The canonical forms of the values under names, each a result of its own. -/
def canonicalizeMembers (room : Nat) :
    List (Value × Value) → List (LooseText × Except CanonicalFault Value)
  | [] => []
  | (.str name, value) :: rest => (name, canonicalizeIn room value) :: canonicalizeMembers room rest
  | _ :: rest => canonicalizeMembers room rest

end

def canonicalize (value : Value) : Except CanonicalFault Value :=
  canonicalizeIn canonicalLimit value

inductive CanonicalTextFault
  | form (fault : CanonicalFault)
  | text (fault : PrintFault)
  | encoding (fault : EncodingFault)
deriving DecidableEq, Repr

def CanonicalTextFault.message : CanonicalTextFault → String
  | .form fault => fault.message
  | .text fault => fault.message
  | .encoding fault => fault.message

def canonicalChars (value : Value) : Except CanonicalTextFault (List Char) :=
  match canonicalize value with
  | .error fault => .error (.form fault)
  | .ok canonical =>
      match printChars .compact 0 canonical with
      | .error fault => .error (.text fault)
      | .ok codes => (CodePoint.wholeChars codes).mapError .encoding

def canonicalBytes (value : Value) : Except CanonicalTextFault Bytes :=
  Utf8.encodeChars <$> canonicalChars value

def canonicalText (value : Value) : Except CanonicalTextFault String :=
  String.ofList <$> canonicalChars value

end TransparencyLog.Json
