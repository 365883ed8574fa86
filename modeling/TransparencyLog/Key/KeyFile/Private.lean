import TransparencyLog.Key.KeyFile.Curve
import TransparencyLog.Key.SigningKey

namespace TransparencyLog.KeyFile

open Der

/-- Why a file has no signing key: it cannot be read, it is encrypted, its algorithm or curve is not
known, its key has the wrong size, or its key is of another kind. -/
inductive Fault
  | unreadable
  | encrypted
  | unknownAlgorithm
  | wrongSize
  | otherKind
deriving DecidableEq, Repr

def Fault.message : Fault → String
  | .unreadable =>
      "Could not deserialize key data. The data may be in an incorrect format or it may be " ++
        "encrypted with an unsupported algorithm."
  | .encrypted => "Password was not given but private key is encrypted"
  | .unknownAlgorithm => "Unsupported key type."
  | .wrongSize => "Invalid private key size."
  | .otherKind => "Signing key must be Ed25519 or ECDSA P-256"

/-- The fields of an elliptic-curve key. -/
structure CurveKey where
  secret : Bytes
  parameters : Option CurveParameters
  point : Option Bytes

def CurveKey.read? (octets : Bytes) : Option CurveKey := do
  let body ← only? sequenceTag octets
  let (version, rest) ← expect? integerTag body
  let (secret, rest) ← expect? octetStringTag rest
  let (parameters, rest) ← optional? (contextTag 0) rest
  let (point, rest) ← optional? (contextTag 1) rest
  let parameters ← parameters.mapM CurveParameters.read?
  let point ← point.mapM fun octets => (only? bitStringTag octets).bind bitOctets?
  if version ≠ [1] ∨ !rest.isEmpty then none else return ⟨secret, parameters, point⟩

/-- The curve parameters of a key: those inside it and those around it agree where both are given.
-/
def agreed? (inner outer : Option CurveParameters) : Option CurveParameters :=
  match inner, outer with
  | some a, some b => if a = b then some a else none
  | some a, none | none, some a => some a
  | none, none => none

/-- The point that octets name. Beside the forms of public keys there is one that gives both
coordinates and the lowest bit of `y` as well. -/
def point? (curve : WeierstrassCurve) : Bytes → Option (Nat × Nat)
  | [] => none
  | form :: rest =>
      if form = 6 ∨ form = 7 then
        match curve.decode (4 :: rest) with
        | .ok (x, y) => if y % 2 = form.toNat % 2 then some (x, y) else none
        | .error _ => none
      else (curve.decode (form :: rest)).toOption

/-- Whether a secret and its point, where one is given, belong together on a curve. -/
def matching (curve : WeierstrassCurve) (secret : Nat) (point : Option Bytes) : Bool :=
  if 0 < secret ∧ secret < curve.order then
    match point with
    | none => true
    | some octets =>
        match point? curve octets with
        | some xy => decide (curve.affine? (curve.smul secret curve.base) = some xy)
        | none => false
  else false

def CurveKey.signingKey (key : CurveKey) (curve : NamedCurve) : Except Fault SigningKey :=
  let secret := Bytes.toNatBE key.secret
  if key.secret.length ≠ curve.octets then .error .unreadable
  else
    match curve with
    | .p256 =>
        if matching .p256 secret key.point then
          match SigningKey.ofSecret? secret with
          | some key => .ok key
          | none => .error .unreadable
        else .error .unreadable
    | .p384 => if matching .p384 secret key.point then .error .otherKind else .error .unreadable
    | .other _ => if 0 < secret then .error .otherKind else .error .unreadable

/-- Reads an elliptic-curve key alone; `outer` is what is said about its curve around it. -/
def readCurve (outer : Option CurveParameters) (octets : Bytes) : Except Fault SigningKey :=
  match CurveKey.read? octets with
  | none => .error .unreadable
  | some key =>
      match agreed? key.parameters outer with
      | none => .error .unreadable
      | some parameters =>
          match parameters.curve? with
          | none => .error .unknownAlgorithm
          | some curve => key.signingKey curve

/-- As many natural numbers as stand in a row of integer elements and nothing else. -/
def naturals? : (count : Nat) → Bytes → Option (List Nat)
  | 0, octets => if octets.isEmpty then some [] else none
  | count + 1, octets => do
      let (contents, rest) ← expect? integerTag octets
      let n ← natural? contents
      return n :: (← naturals? count rest)

/-- A key that is in order but does not sign here, provided that it is in order. -/
def otherKindIf (inOrder : Bool) : Except Fault SigningKey :=
  .error (if inOrder then .otherKind else .unreadable)

/-- Whether octets are an RSA key: its version and eight numbers, among them the modulus and its two
factors. -/
def isRsaKey (octets : Bytes) : Bool :=
  match (only? sequenceTag octets).bind (naturals? 9) with
  | some (0 :: modulus :: _ :: _ :: p :: q :: _) => decide (modulus = p * q)
  | _ => false

/-- Whether octets are a DSA key: its version and five numbers, among them a power of the generator
and its exponent. -/
def isDsaKey (octets : Bytes) : Bool :=
  match (only? sequenceTag octets).bind (naturals? 6) with
  | some [0, p, _, g, y, x] => decide (y = Residue.pow p g x)
  | _ => false

/-- Whether elements are those of a row of attributes: each an object and its set of values. -/
def areAttributes : (fuel : Nat) → Bytes → Bool
  | 0, octets => octets.isEmpty
  | fuel + 1, octets =>
      if octets.isEmpty then true
      else
        match expect? sequenceTag octets with
        | none => false
        | some (body, rest) =>
            match expect? objectTag body with
            | some (_, values) => (only? setTag values).isSome && areAttributes fuel rest
            | none => false

def isElement (octets : Bytes) : Bool :=
  match next? octets with
  | some (_, rest) => rest.isEmpty
  | none => false

/-- An algorithm with its parameters: an object and at most one element. -/
structure Algorithm where
  object : Bytes
  parameters : Bytes

def Algorithm.read? (octets : Bytes) : Option Algorithm := do
  let (object, parameters) ← expect? objectTag octets
  if isObject object ∧ (parameters.isEmpty ∨ isElement parameters) then return ⟨object, parameters⟩
  else none

/-- A private key with its algorithm. -/
structure Wrapped where
  algorithm : Algorithm
  key : Bytes

def Wrapped.read? (octets : Bytes) : Option Wrapped := do
  let body ← only? sequenceTag octets
  let (version, rest) ← expect? integerTag body
  let (algorithm, rest) ← expect? sequenceTag rest
  let (key, rest) ← expect? octetStringTag rest
  let (attributes, rest) ← optional? (contextTag 0) rest
  let algorithm ← Algorithm.read? algorithm
  if version ≠ [0] ∨ !rest.isEmpty ∨ attributes.any (!areAttributes octets.length ·) then none
  else return ⟨algorithm, key⟩

/-- Reads a key that is an octet string inside another one: the seed of an Ed25519 key, or a key of
another kind with a size of its own. -/
def readOctetKey (object : Bytes) (key : Bytes) : Except Fault SigningKey :=
  match only? octetStringTag key with
  | none => .error .unreadable
  | some seed =>
      if object = ed25519Object then
        match SigningKey.ofSeed? seed with
        | some key => .ok key
        | none => .error .wrongSize
      else if octetKeyObjects.contains (object, seed.length) then .error .otherKind
      else .error .wrongSize

def readPrivate (octets : Bytes) : Except Fault SigningKey :=
  match Wrapped.read? octets with
  | none => .error .unreadable
  | some ⟨⟨object, parameters⟩, key⟩ =>
      if object = curveKeyObject then
        match CurveParameters.read? parameters with
        | some parameters => readCurve (some parameters) key
        | none => .error .unreadable
      else if rsaObjects.contains object then otherKindIf (isRsaKey key)
      else if object = dsaObject then
        otherKindIf (((only? sequenceTag parameters).bind (naturals? 3)).isSome &&
          (naturals? 1 key).isSome)
      else if diffieHellmanObjects.contains object then
        otherKindIf ((only? sequenceTag parameters).isSome && (naturals? 1 key).isSome)
      else if object = ed25519Object ∨ (octetKeyObjects.lookup object).isSome then
        if parameters.isEmpty then readOctetKey object key else .error .unreadable
      else .error .unknownAlgorithm

def readEncrypted (octets : Bytes) : Except Fault SigningKey :=
  let parts? := do
    let body ← only? sequenceTag octets
    let (algorithm, rest) ← expect? sequenceTag body
    let algorithm ← Algorithm.read? algorithm
    let contents ← only? octetStringTag rest
    return (algorithm, contents)
  .error (if parts?.isSome then .encrypted else .unreadable)

end TransparencyLog.KeyFile
