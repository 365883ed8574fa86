import TransparencyLog.Proofs.Key.KeyStore
import TransparencyLog.Proofs.Key.Reloading

namespace TransparencyLog.RegistryFile

open FileTree FileAction

variable {suite : SignatureSuite} {path : String} {tree : FileTree} {entries : List KeyEntry}
  {registry : Registry} {octets : Bytes}

section Example

end Example

end TransparencyLog.RegistryFile
