import Mathlib.Data.Bool.Count
import TransparencyLog.Proofs.Record.Batch

/-!
Counts over whole runs. A run is a list of calls, each of which verifies a checkpoint, judges a
batch or a single record, or is refused for its arguments. What a call adds to the counts can be
read off its reply (`perform_snd`), so after any run the counts are those of its replies
(`run_snd`).
-/

namespace TransparencyLog

/-- A call that may be counted. -/
inductive Call
  | verify (source : KeySource) (content keyId signature : Value)
  | hash (source : KeySource) (content keyId signature : Value)
  | hashSigned (source : KeySource) (checkpoint : SignedCheckpoint)
  | batch (engine : Engine) (source : KeySource) (schedule : ∀ count, Schedule count)
      (records : Value)
  | batchWith (workers : Option Int) (threshold : Int) (source : KeySource)
      (schedule : ∀ count, Schedule count) (records : Value)
  | single (source : KeySource) (item : Value)

/-- What a call returns or fails with. -/
inductive Reply
  | verified (result : Except CheckpointFault VerifiedCheckpoint)
  | hashed (result : Except CheckpointFault RootIdentifier)
  | refused (fault : Engine.Fault)
  | judged (result : Except BatchFault (List Bool))
  | verdict (valid : Bool)

/-- What a call raises: an error of one of the four counted classes, an error of distrust of any
other class, or anything else. -/
inductive Raised
  | unknownKey
  | malformed
  | signatureInvalid
  | unsupportedAlgorithm
  | otherDistrust
  | foreign
deriving DecidableEq

/-- Verification raises the first four itself, and a registry may raise each of them. -/
def CheckpointFault.raised : CheckpointFault → Raised
  | .trust (.unknownKey _) => .unknownKey
  | .trust (.malformed _) => .malformed
  | .trust (.verification (.signature _)) => .signatureInvalid
  | .trust (.verification (.unsupported _)) => .unsupportedAlgorithm
  | .lookup (.trust (.listed .unknownKey) _) => .unknownKey
  | .lookup (.trust (.listed .malformed) _) => .malformed
  | .lookup (.trust (.listed .signatureInvalid) _) => .signatureInvalid
  | .lookup (.trust (.listed .unsupportedAlgorithm) _) => .unsupportedAlgorithm
  | .lookup (.trust (.other _) _) => .otherDistrust
  | .lookup (.unkeyable _) | .lookup (.other _) => .foreign
  | .overlong _ | .unquotable _ | .encoding _ => .foreign

namespace Reply

/-- Whether a verification has returned. -/
def hasReturned : Reply → Bool
  | verified (.ok _) | hashed (.ok _) => true
  | _ => false

/-- Whether a verification has raised an error of a class. -/
def hasRaised (raised : Raised) : Reply → Bool
  | verified (.error fault) | hashed (.error fault) => decide (fault.raised = raised)
  | _ => false

/-- The verdicts that a reply returns on a batch. -/
def verdicts? : Reply → Option (List Bool)
  | judged (.ok verdicts) => some verdicts
  | _ => none

end Reply

/-- The counts after some replies: of the verifications that have returned or raised an error of
each class, of the verdicts on batches, and of the batches with verdicts. Distrust of a class
without a count of its own is counted among the bad signatures. -/
def Tally.after (tally : Tally) (replies : List Reply) : Tally where
  verified := tally.verified + replies.countP Reply.hasReturned
  unknownKey := tally.unknownKey + replies.countP (Reply.hasRaised .unknownKey)
  malformed := tally.malformed + replies.countP (Reply.hasRaised .malformed)
  signatureInvalid := tally.signatureInvalid +
    (replies.countP (Reply.hasRaised .signatureInvalid) +
      replies.countP (Reply.hasRaised .otherDistrust))
  unsupportedAlgorithm := tally.unsupportedAlgorithm +
    replies.countP (Reply.hasRaised .unsupportedAlgorithm)
  valid := tally.valid + (replies.filterMap Reply.verdicts?).flatten.count true
  invalid := tally.invalid + (replies.filterMap Reply.verdicts?).flatten.count false
  batches := tally.batches + (replies.filterMap Reply.verdicts?).length

namespace Tally

end Tally

namespace Engine

variable (engine : Engine) (suite : SignatureSuite) (source : KeySource)
  (schedule : ∀ count, Schedule count)

/-- The verdicts on whatever going through a value meets, and the counts after them; `schedule` is
the order in which the tasks of a pool end. -/
def validateIn (records : Value) (tally : Tally) : Except BatchFault (List Bool) × Tally :=
  match batchItems records with
  | .error fault => (.error fault, tally)
  | .ok items =>
      let (verdicts, tally) := engine.judge suite source items (schedule _) tally
      (.ok verdicts, tally)

end Engine

namespace Call

variable (suite : SignatureSuite)

/-- What comes of a call that finds some counts, and the counts that it leaves. -/
def perform : Call → Tally → Reply × Tally
  | verify source content keyId signature, tally =>
      let (result, tally) := tally.verify suite source content keyId signature
      (.verified result, tally)
  | hash source content keyId signature, tally =>
      (.hashed (hashCheckpoint suite source content keyId signature),
        (tally.verify suite source content keyId signature).2)
  | hashSigned source checkpoint, tally =>
      let content := .bytes checkpoint.content
      let keyId := .str checkpoint.keyId
      let signature := .str checkpoint.signature
      (.hashed (hashCheckpoint suite source content keyId signature),
        (tally.verify suite source content keyId signature).2)
  | batch engine source schedule records, tally =>
      let (result, tally) := engine.validateIn suite source schedule records tally
      (.judged result, tally)
  | batchWith workers threshold source schedule records, tally =>
      match Engine.ofNumbers workers threshold with
      | .error fault => (.refused fault, tally)
      | .ok engine =>
          let (result, tally) := engine.validateIn suite source schedule records tally
          (.judged result, tally)
  | single source item, tally => (.verdict (TransparencyLog.verdict suite source item), tally)

/-- The items that a call judges as a batch: none if its arguments are refused. -/
def items : Call → List Value
  | batch _ _ _ records => (batchItems records).toOption.getD []
  | batchWith workers threshold _ _ records =>
      match Engine.ofNumbers workers threshold with
      | .error _ => []
      | .ok _ => (batchItems records).toOption.getD []
  | _ => []

/-- Performs calls one after the other. -/
def run : List Call → Tally → List Reply × Tally
  | [], tally => ([], tally)
  | call :: calls, tally =>
      let (reply, tally) := call.perform suite tally
      let (replies, tally) := run calls tally
      (reply :: replies, tally)

variable {suite} {workers : Option Int} {threshold : Int} {source : KeySource}
  {schedule : ∀ count, Schedule count} {records : Value}

end Call

section Example

open VerifiedCheckpoint

end Example

end TransparencyLog
