import TransparencyLog.Der

namespace TransparencyLog.KeyFile

def ed25519Object : Bytes := [0x2B, 0x65, 0x70]
def curveKeyObject : Bytes := [0x2A, 0x86, 0x48, 0xCE, 0x3D, 0x02, 0x01]
def primeFieldObject : Bytes := [0x2A, 0x86, 0x48, 0xCE, 0x3D, 0x01, 0x01]
def p256Object : Bytes := [0x2A, 0x86, 0x48, 0xCE, 0x3D, 0x03, 0x01, 0x07]
def p384Object : Bytes := [0x2B, 0x81, 0x04, 0x00, 0x22]
def dsaObject : Bytes := [0x2A, 0x86, 0x48, 0xCE, 0x38, 0x04, 0x01]

/-- The two identifiers of RSA keys: for any use, and for padded signatures only. -/
def rsaObjects : List Bytes :=
  [[0x2A, 0x86, 0x48, 0x86, 0xF7, 0x0D, 0x01, 0x01, 0x01],
    [0x2A, 0x86, 0x48, 0x86, 0xF7, 0x0D, 0x01, 0x01, 0x0A]]

def diffieHellmanObjects : List Bytes :=
  [[0x2A, 0x86, 0x48, 0x86, 0xF7, 0x0D, 0x01, 0x03, 0x01],
    [0x2A, 0x86, 0x48, 0xCE, 0x3E, 0x02, 0x01]]

/-- Algorithms beside Ed25519 whose keys are an octet string, with its size: X25519, X448 and Ed448.
-/
def octetKeyObjects : List (Bytes × Nat) :=
  [([0x2B, 0x65, 0x6E], 32), ([0x2B, 0x65, 0x6F], 56), ([0x2B, 0x65, 0x71], 57)]

/-- Curves beside P-256 and P-384 in common use, with the size of their secrets: P-192, P-224,
P-521, secp256k1 and three of the Brainpool curves. -/
def otherCurveObjects : List (Bytes × Nat) :=
  [([0x2A, 0x86, 0x48, 0xCE, 0x3D, 0x03, 0x01, 0x01], 24), ([0x2B, 0x81, 0x04, 0x00, 0x21], 28),
    ([0x2B, 0x81, 0x04, 0x00, 0x23], 66), ([0x2B, 0x81, 0x04, 0x00, 0x0A], 32),
    ([0x2B, 0x24, 0x03, 0x03, 0x02, 0x08, 0x01, 0x01, 0x07], 32),
    ([0x2B, 0x24, 0x03, 0x03, 0x02, 0x08, 0x01, 0x01, 0x0B], 48),
    ([0x2B, 0x24, 0x03, 0x03, 0x02, 0x08, 0x01, 0x01, 0x0D], 64)]

end TransparencyLog.KeyFile
