import TransparencyLog.Proofs.Json.Printed
import TransparencyLog.Proofs.LogResponse
import TransparencyLog.Proofs.Record.Appending

namespace TransparencyLog.LogResponse

variable {packages : List (LooseText × List LogRecord)} {digest : LooseText}
  {records : List LogRecord}

section Example

end Example

end TransparencyLog.LogResponse
