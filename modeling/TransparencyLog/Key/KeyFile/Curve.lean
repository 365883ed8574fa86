import TransparencyLog.Curve.Weierstrass
import TransparencyLog.Key.KeyFile.Object

namespace TransparencyLog.KeyFile

open Der

/-- The curves that are told apart; of those beside P-256 and P-384 only the size of a secret
matters. -/
inductive NamedCurve
  | p256
  | p384
  | other (octets : Nat)
deriving DecidableEq, Repr

def NamedCurve.octets : NamedCurve → Nat
  | .p256 => WeierstrassCurve.p256.octets
  | .p384 => WeierstrassCurve.p384.octets
  | .other octets => octets

def NamedCurve.ofObject? (object : Bytes) : Option NamedCurve :=
  if object = p256Object then some .p256
  else if object = p384Object then some .p384
  else (otherCurveObjects.lookup object).map .other

/-- A curve spelled out: its field, its two coefficients, a base point, and the numbers of the
multiples of that point and of their cosets. -/
structure Domain where
  field : Bytes
  a : Bytes
  b : Bytes
  base : Bytes
  order : Nat
  cofactor : Nat
deriving DecidableEq, Repr

/-- The numbers of a curve over a prime field whose points are all multiples of its base point. -/
def Domain.ofCurve (curve : WeierstrassCurve) : Domain where
  field := write objectTag primeFieldObject ++ writeNatural curve.prime
  a := Bytes.ofNatBE curve.octets curve.a
  b := Bytes.ofNatBE curve.octets curve.b
  base := curve.encodeFull curve.baseX curve.baseY
  order := curve.order
  cofactor := 1

/-- The curve spelled out in the contents of an element. The seed that its coefficients were drawn
from may be given and makes no difference. -/
def Domain.read? (octets : Bytes) : Option Domain := do
  let (version, rest) ← expect? integerTag octets
  let (field, rest) ← expect? sequenceTag rest
  let (coefficients, rest) ← expect? sequenceTag rest
  let (base, rest) ← expect? octetStringTag rest
  let (order, rest) ← expect? integerTag rest
  let (cofactor, rest) ← optional? integerTag rest
  let (a, more) ← expect? octetStringTag coefficients
  let (b, more) ← expect? octetStringTag more
  let (_, more) ← optional? bitStringTag more
  let order ← natural? order
  let cofactor ← cofactor.mapM natural?
  if version ≠ [1] ∨ !rest.isEmpty ∨ !more.isEmpty then none
  else return ⟨field, a, b, base, order, cofactor.getD 1⟩

def NamedCurve.ofDomain? (domain : Domain) : Option NamedCurve :=
  if domain = .ofCurve .p256 then some .p256
  else if domain = .ofCurve .p384 then some .p384
  else if domain = .ofCurve .p521 then some (.other WeierstrassCurve.p521.octets)
  else none

/-- What a key says about its curve: a name, nothing at all, or its numbers. -/
inductive CurveParameters
  | named (object : Bytes)
  | implied
  | explicit (domain : Domain)
deriving DecidableEq, Repr

def CurveParameters.read? (octets : Bytes) : Option CurveParameters := do
  let (element, rest) ← next? octets
  if !rest.isEmpty then none
  else if element.tag = objectTag then
    if isObject element.contents then return .named element.contents else none
  else if element.tag = nullTag then
    if element.contents.isEmpty then return .implied else none
  else if element.tag = sequenceTag then return .explicit (← Domain.read? element.contents)
  else none

def CurveParameters.curve? : CurveParameters → Option NamedCurve
  | .named object => NamedCurve.ofObject? object
  | .implied => none
  | .explicit domain => NamedCurve.ofDomain? domain

end TransparencyLog.KeyFile
