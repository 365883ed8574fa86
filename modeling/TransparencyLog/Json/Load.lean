import TransparencyLog.Json.Reader
import TransparencyLog.Text.Line

namespace TransparencyLog.Json

/-- The encodings that a byte string may have; those found by a mark pass over it. -/
inductive Encoding
  | utf8 (marked : Bool)
  | units16 (order : WideCodes.Order) (marked : Bool)
  | units32 (order : WideCodes.Order) (marked : Bool)
deriving DecidableEq, Repr

def declaredEncoding? (bytes : Bytes) : Option Encoding :=
  if bytes.take 4 = [0, 0, 0xFE, 0xFF] then some (.units32 .big true)
  else if bytes.take 4 = [0xFF, 0xFE, 0, 0] then some (.units32 .little true)
  else if bytes.take 2 = [0xFE, 0xFF] then some (.units16 .big true)
  else if bytes.take 2 = [0xFF, 0xFE] then some (.units16 .little true)
  else if bytes.take 3 = [0xEF, 0xBB, 0xBF] then some (.utf8 true)
  else none

/-- The encoding that the zero octets among the first ones give away; a document starts with two
ASCII characters. -/
def guessedEncoding : Bytes → Encoding
  | a :: b :: c :: d :: _ =>
      if a = 0 then if b = 0 then .units32 .big false else .units16 .big false
      else if b = 0 then
        if c = 0 ∧ d = 0 then .units32 .little false else .units16 .little false
      else .utf8 false
  | [a, b] =>
      if a = 0 then .units16 .big false
      else if b = 0 then .units16 .little false
      else .utf8 false
  | _ => .utf8 false

def decodeUnknown (bytes : Bytes) : Except DecodingFault (List CodePoint) :=
  match (declaredEncoding? bytes).getD (guessedEncoding bytes) with
  | .utf8 marked => Utf8.decodeLoose 0 (bytes.drop (if marked then 3 else 0))
  | .units16 order marked =>
      let mark := if marked then 2 else 0
      WideCodes.decode16 order mark (bytes.drop mark)
  | .units32 order marked =>
      let mark := if marked then 4 else 0
      WideCodes.decode32 order mark (bytes.drop mark)

inductive LoadFault
  | unreadable (flaw : Flaw) (line column position : Nat)
  | undecodable (fault : DecodingFault)
  | overlong (fault : Numeral.Overlong)
  | tooDeep (fault : TooDeep)
  | notText (typeName : String)
deriving DecidableEq, Repr

def LoadFault.message : LoadFault → String
  | .unreadable flaw line column position =>
      (ReadFault.malformed flaw line column position).message
  | .undecodable fault => fault.message
  | .overlong fault => fault.message
  | .tooDeep fault => fault.message
  | .notText typeName => s!"the JSON object must be str, bytes or bytearray, not {typeName}"

def LoadFault.ofRead : ReadFault → LoadFault
  | .malformed flaw line column position => .unreadable flaw line column position
  | .overlong fault => .overlong fault
  | .tooDeep fault => .tooDeep fault

def loadText (text : LooseText) : Except LoadFault Value :=
  match parse text with
  | .ok value => .ok value
  | .error fault => .error (.ofRead fault)

/-- The document that a byte string spells; a second byte order mark is no white space. -/
def loadBytes (octets : Bytes) : Except LoadFault Value :=
  match decodeUnknown octets with
  | .error fault => .error (.undecodable fault)
  | .ok cs =>
      match readDocument cs with
      | .ok value => .ok value
      | .error stop => .error (.ofRead (stop.toFault cs))

def load : Value → Except LoadFault Value
  | .str text => loadText text
  | .bytes octets | .buffer octets => loadBytes octets
  | value => .error (.notText value.typeName)

/-- The text of a file: UTF-8, with every line ending as a line feed. -/
def fileText (octets : Bytes) : Except DecodingFault String :=
  match Utf8.decodeChars octets with
  | .ok cs => .ok (String.ofList (Text.unifyLineEnds cs))
  | .error fault => .error fault

def loadFile (octets : Bytes) : Except LoadFault Value :=
  match fileText octets with
  | .ok text => loadText text
  | .error fault => .error (.undecodable fault)

end TransparencyLog.Json
