import TransparencyLog.Text.Loose

namespace TransparencyLog.WideCodes

/-- Which octet of a unit comes first. -/
inductive Order
  | big
  | little
deriving DecidableEq, Repr

def Order.label : Order → String
  | .big => "be"
  | .little => "le"

def unit (order : Order) (octets : Bytes) : Nat :=
  match order with
  | .big => Bytes.toNatBE octets
  | .little => Bytes.toNatLE octets

def units16 (order : Order) (position : Nat) : Bytes → Except DecodingFault (List Nat)
  | [] => .ok []
  | [b] => .error ⟨"utf-16-" ++ order.label, position, position + 1, b, .cutOff⟩
  | a :: b :: rest => (unit order [a, b] :: ·) <$> units16 order (position + 2) rest

def decode16 (order : Order) (position : Nat) (bytes : Bytes) :
    Except DecodingFault (List CodePoint) :=
  (fun units => CodePoint.join (units.map .ofNat)) <$> units16 order position bytes

def decode32 (order : Order) (position : Nat) : Bytes → Except DecodingFault (List CodePoint)
  | [] => .ok []
  | a :: b :: c :: d :: rest =>
      let n := unit order [a, b, c, d]
      if n < 0x110000 then (.ofNat n :: ·) <$> decode32 order (position + 4) rest
      else .error ⟨"utf-32-" ++ order.label, position, position + 4, a, .outOfRange⟩
  | a :: rest =>
      .error ⟨"utf-32-" ++ order.label, position, position + 1 + rest.length, a, .cutOff⟩

end TransparencyLog.WideCodes
