import TransparencyLog.Bytes.Hex

namespace TransparencyLog

/-- What is wrong with a sequence of octets. -/
inductive DecodingFlaw
  | start
  | continuation
  | truncation
  | cutOff
  | outOfRange
deriving DecidableEq, Repr

def DecodingFlaw.message : DecodingFlaw → String
  | .start => "invalid start byte"
  | .continuation => "invalid continuation byte"
  | .truncation => "unexpected end of data"
  | .cutOff => "truncated data"
  | .outOfRange => "code point not in range(0x110000)"

/-- A flawed sequence: its octets are those from `start` up to, not including, `stop`. -/
structure DecodingFault where
  encoding : String
  start : Nat
  stop : Nat
  first : UInt8
  flaw : DecodingFlaw
deriving DecidableEq, Repr

namespace DecodingFault

def span (fault : DecodingFault) : String :=
  if fault.stop = fault.start + 1 then
    s!"byte 0x{Hex.encode [fault.first]} in position {fault.start}"
  else
    s!"bytes in position {fault.start}-{fault.stop - 1}"

def message (fault : DecodingFault) : String :=
  s!"'{fault.encoding}' codec can't decode {fault.span}: {fault.flaw.message}"

end DecodingFault

end TransparencyLog
