import TransparencyLog.FileTree.Action
import TransparencyLog.Key.KeyFile

namespace TransparencyLog.KeyPair

/-- Writes the private key to a path, and the public key to another unless that is empty. -/
def save (key : SigningKey) (path publicPath : String) : FileAction FileFault Unit := do
  FileAction.ensureParent path
  FileAction.write path (KeyFile.privateText key)
  if !publicPath.isEmpty then FileAction.write publicPath (KeyFile.publicText key)

inductive LoadFault
  | file (fault : FileFault)
  | key (fault : KeyFile.Fault)
deriving DecidableEq, Repr

def LoadFault.message : LoadFault → String
  | .file fault => fault.message
  | .key fault => fault.message

def load (tree : FileTree) (path : String) : Except LoadFault SigningKey :=
  match tree.read path with
  | .error fault => .error (.file fault)
  | .ok octets =>
      match KeyFile.read octets with
      | .ok key => .ok key
      | .error fault => .error (.key fault)

inductive EnsureFault
  | unsupported (algorithm : String)
  | file (fault : FileFault)
deriving DecidableEq, Repr

def EnsureFault.message : EnsureFault → String
  | .unsupported algorithm => PublicKey.unsupportedMessage algorithm
  | .file fault => fault.message

def publicPath (path : String) : String := path ++ ".pub"

/-- Makes a pair unless something stands at the path of the private key. Returns both paths. -/
def ensure (path algorithm : String) (entropy : Bytes) :
    FileAction EnsureFault (String × String) := do
  if !(← FileAction.holds path) then
    match Scheme.ofName? algorithm with
    | none => throw (.unsupported algorithm)
    | some scheme =>
        FileAction.rename .file (save (.generate entropy scheme) path (publicPath path))
  return (path, publicPath path)

end TransparencyLog.KeyPair
