import TransparencyLog.Record.Verdict
import TransparencyLog.Tally

/-!
Verdicts on whole batches. Small batches are judged item by item; large ones by a pool, whose tasks
end in any order and put their verdicts into the slots of their items.
-/

namespace TransparencyLog

/-- Batches of at least this size use the pool unless told otherwise. -/
def defaultThreshold : Nat := 64

/-- How batches are judged: the size of the pool, left open where there is none, and the smallest
batch that uses it. A pool of one is no pool. -/
structure Engine where
  workers : Option Nat
  threshold : Nat
  workers_pos : ∀ n ∈ workers, 0 < n
  threshold_pos : 0 < threshold

namespace Engine

inductive Fault
  | workers
  | threshold
deriving DecidableEq, Repr

def Fault.message : Fault → String
  | .workers => "max_workers must be >= 1 or None"
  | .threshold => "parallel_threshold must be >= 1"

def ofNumbers (workers : Option Int) (threshold : Int) : Except Fault Engine :=
  if hw : ∀ n ∈ workers, 1 ≤ n then
    if ht : 1 ≤ threshold then
      .ok {
        workers := workers.map Int.toNat
        threshold := threshold.toNat
        workers_pos := by
          intro n hn
          obtain ⟨m, hm, rfl⟩ := Option.map_eq_some_iff.1 hn
          have := hw m hm
          omega
        threshold_pos := by omega }
    else .error .threshold
  else .error .workers

def usesPool (engine : Engine) (count : Nat) : Bool :=
  decide (engine.threshold ≤ count) && decide (engine.workers ≠ some 1)

end Engine

/-- An order in which the tasks of a batch of `count` items may end: every index once. -/
structure Schedule (count : Nat) where
  order : List Nat
  perm : order.Perm (List.range count)

def Schedule.inOrder (count : Nat) : Schedule count :=
  ⟨List.range count, List.Perm.refl _⟩

inductive BatchFault
  | none
  | notIterable (typeName : String)
deriving DecidableEq, Repr

def BatchFault.message : BatchFault → String
  | .none => "records must be an iterable of PackageLogRecord, not None"
  | .notIterable typeName => s!"'{typeName}' object is not iterable"

def batchItems (records : Value) : Except BatchFault (List Value) :=
  match records, records.elements? with
  | .null, _ => .error .none
  | _, some items => .ok items
  | _, none => .error (.notIterable records.typeName)

/-- The pool at work: the slot of every item, filled or not, and the counts so far. -/
structure PoolState where
  slots : Array (Option Bool)
  tally : Tally

def PoolState.finish (judge : Value → Bool) (items : Array Value) (state : PoolState)
    (index : Nat) : PoolState :=
  match items[index]? with
  | none => state
  | some item =>
      let verdict := judge item
      ⟨state.slots.setIfInBounds index (some verdict), state.tally.countVerdict verdict⟩

def judgePooled (judge : Value → Bool) (items : List Value) (order : List Nat) (tally : Tally) :
    List Bool × Tally :=
  let state := order.foldl (PoolState.finish judge items.toArray)
    ⟨Array.replicate items.length none, tally⟩
  (state.slots.toList.map (·.getD false), state.tally)

def judgeInline (judge : Value → Bool) (items : List Value) (tally : Tally) : List Bool × Tally :=
  let verdicts := items.map judge
  (verdicts, verdicts.foldl Tally.countVerdict tally)

def Engine.judge (engine : Engine) (suite : SignatureSuite) (source : KeySource)
    (items : List Value) (schedule : Schedule items.length) (tally : Tally) :
    List Bool × Tally :=
  let (verdicts, tally) :=
    if engine.usesPool items.length then
      judgePooled (verdict suite source) items schedule.order tally
    else judgeInline (verdict suite source) items tally
  (verdicts, tally.countBatch)

/-- The verdicts on whatever going through a value meets, and the counts after them. -/
def Engine.validate (engine : Engine) (suite : SignatureSuite) (source : KeySource)
    (records : Value) (tally : Tally) : Except BatchFault (List Bool) × Tally :=
  match batchItems records with
  | .error fault => (.error fault, tally)
  | .ok items =>
      let (verdicts, tally) := engine.judge suite source items (.inOrder _) tally
      (.ok verdicts, tally)

end TransparencyLog
