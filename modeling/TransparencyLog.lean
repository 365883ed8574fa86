import TransparencyLog.Json.Canonical
import TransparencyLog.LogQuery
import TransparencyLog.Main
import TransparencyLog.Proofs.Checkpoint.RootIdentifier
import TransparencyLog.Proofs.Checkpoint.Overlong
import TransparencyLog.Proofs.Bytes.Base64
import TransparencyLog.Proofs.Bytes.StandardForm
import TransparencyLog.Proofs.Key.Labelled
import TransparencyLog.Proofs.Json.Document
import TransparencyLog.Proofs.Json.Names
import TransparencyLog.Proofs.Json.NormalForm
import TransparencyLog.Proofs.Json.Overlong
import TransparencyLog.Proofs.Key.SigningKey
import TransparencyLog.Proofs.Checkpoint.Signing
import TransparencyLog.Proofs.Checkpoint.Transport
import TransparencyLog.Proofs.FileTree.Place
import TransparencyLog.Proofs.FileTree.Action
import TransparencyLog.Proofs.FileTree.Directories
import TransparencyLog.Proofs.FileTree.Document
import TransparencyLog.Proofs.Key.Registry
import TransparencyLog.Proofs.Key.RegistryFile
import TransparencyLog.Proofs.Command.Run
import TransparencyLog.Proofs.Command.Keys
import TransparencyLog.Proofs.Key.KeyStore
import TransparencyLog.Proofs.Key.Reloading
import TransparencyLog.Proofs.Key.Loading
import TransparencyLog.Proofs.Key.Saving
import TransparencyLog.Proofs.Key.Trust
import TransparencyLog.Proofs.Key.Order
import TransparencyLog.Proofs.Intake
import TransparencyLog.Proofs.Record.Verdict
import TransparencyLog.Proofs.Record.Batch
import TransparencyLog.Proofs.Tally
import TransparencyLog.Proofs.Record.Growth
import TransparencyLog.Proofs.LogResponse
import TransparencyLog.Proofs.Record.Transport
import TransparencyLog.Proofs.Record.Appending
import TransparencyLog.Proofs.Record.Agreement
import TransparencyLog.Proofs.Record.StandardForm
import TransparencyLog.Proofs.LogQuery
import TransparencyLog.Proofs.Decimal.Spelling
import TransparencyLog.Proofs.Settings
import TransparencyLog.Proofs.Command.Output
import TransparencyLog.Proofs.Command.SignRecord
import TransparencyLog.Proofs.Command.Inputs
import TransparencyLog.Proofs.Command.VerifyCheckpoint
import TransparencyLog.Proofs.Command.ValidateRecords
import TransparencyLog.Proofs.Command.RecordHistory
import TransparencyLog.Proofs.Command.Selection
import TransparencyLog.Proofs.Command.Judgement
import TransparencyLog.Proofs.Bytes.Natural
import TransparencyLog.Proofs.Curve.Residue
import TransparencyLog.Proofs.Curve.Primality
import TransparencyLog.Proofs.Curve.Weierstrass
import TransparencyLog.Proofs.Curve.P256
import TransparencyLog.Proofs.Der
import TransparencyLog.Proofs.Key.Pem
import TransparencyLog.Proofs.Key.KeyFile
import TransparencyLog.Proofs.Key.KeyPair
