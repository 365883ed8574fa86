import TransparencyLog.Checkpoint.Verification

namespace TransparencyLog

/-- The outcomes of checkpoint verification that are counted. -/
inductive CheckpointOutcome
  | ok
  | failed (kind : TrustFault.Kind)
deriving DecidableEq, Repr

/-- The outcome as which an error of distrust counts: a class without an outcome of its own counts
among the bad signatures. -/
def CheckpointOutcome.ofClass : TrustFault.Class → CheckpointOutcome
  | .listed kind => .failed kind
  | .other _ => .failed .signatureInvalid

/-- The outcome to count; a result that is no judgement on the checkpoint counts nowhere. -/
def CheckpointOutcome.of? : Except CheckpointFault VerifiedCheckpoint → Option CheckpointOutcome
  | .ok _ => some .ok
  | .error fault => fault.class?.map ofClass

/-- Counts by outcome of a checkpoint, verdict on a record, and finished batch. -/
structure Tally where
  verified : Nat
  unknownKey : Nat
  malformed : Nat
  signatureInvalid : Nat
  unsupportedAlgorithm : Nat
  valid : Nat
  invalid : Nat
  batches : Nat
deriving DecidableEq, Repr

namespace Tally

def zero : Tally := ⟨0, 0, 0, 0, 0, 0, 0, 0⟩

def countOutcome (tally : Tally) : CheckpointOutcome → Tally
  | .ok => { tally with verified := tally.verified + 1 }
  | .failed .unknownKey => { tally with unknownKey := tally.unknownKey + 1 }
  | .failed .malformed => { tally with malformed := tally.malformed + 1 }
  | .failed .signatureInvalid => { tally with signatureInvalid := tally.signatureInvalid + 1 }
  | .failed .unsupportedAlgorithm =>
      { tally with unsupportedAlgorithm := tally.unsupportedAlgorithm + 1 }

def countCheckpoint (tally : Tally) (result : Except CheckpointFault VerifiedCheckpoint) : Tally :=
  match CheckpointOutcome.of? result with
  | some outcome => tally.countOutcome outcome
  | none => tally

def countVerdict (tally : Tally) (verdict : Bool) : Tally :=
  if verdict then { tally with valid := tally.valid + 1 }
  else { tally with invalid := tally.invalid + 1 }

def countBatch (tally : Tally) : Tally :=
  { tally with batches := tally.batches + 1 }

end Tally

/-- Verifies contents, key id and signature, and counts what comes of it. -/
def Tally.verify (tally : Tally) (suite : SignatureSuite) (source : KeySource)
    (content keyId signature : Value) : Except CheckpointFault VerifiedCheckpoint × Tally :=
  let result := VerifiedCheckpoint.verify suite source content keyId signature
  (result, tally.countCheckpoint result)

end TransparencyLog
