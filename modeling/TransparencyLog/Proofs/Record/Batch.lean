import TransparencyLog.Proofs.Checkpoint.Outcome
import TransparencyLog.Proofs.Record.Verdict
import TransparencyLog.Record.Batch
import Mathlib.Data.List.Basic
import Mathlib.Logic.Relation

/-!
Verdicts on batches. In whatever order the workers of a pool take the tasks of a batch and finish
them, the slots hold the verdicts on the items in their order once no task is left
(`Pool.results_of_reaches`), and the counts are those of judging item by item. So a batch is judged
item by item, with a pool or without (`judge_eq`).
-/

namespace TransparencyLog

/-- The counts after some verdicts. -/
def Tally.countVerdicts (tally : Tally) (verdicts : List Bool) : Tally :=
  { tally with
    valid := tally.valid + verdicts.count true
    invalid := tally.invalid + verdicts.count false }

theorem Tally.foldl_countVerdict (verdicts : List Bool) (tally : Tally) :
    verdicts.foldl countVerdict tally = tally.countVerdicts verdicts := by
  induction verdicts generalizing tally with
  | nil => rfl
  | cons verdict verdicts ih =>
      rw [List.foldl_cons, ih]
      cases verdict with
      | true => simp [countVerdict, countVerdicts, Nat.add_assoc, Nat.add_comm 1]
      | false => simp [countVerdict, countVerdicts, Nat.add_assoc, Nat.add_comm 1]

theorem Tally.countVerdict_countVerdicts (tally : Tally) (verdicts : List Bool) (verdict : Bool) :
    (tally.countVerdicts verdicts).countVerdict verdict =
      tally.countVerdicts (verdicts ++ [verdict]) := by
  simp only [← foldl_countVerdict, List.foldl_append, List.foldl_cons, List.foldl_nil]

theorem Tally.countVerdicts_perm {verdicts verdicts' : List Bool} (h : verdicts.Perm verdicts')
    (tally : Tally) : tally.countVerdicts verdicts = tally.countVerdicts verdicts' := by
  rw [countVerdicts, countVerdicts, h.count_eq, h.count_eq]

namespace PoolState

variable {judge : Value → Bool} {items : Array Value} {tally : Tally} {state : PoolState}
  {done : List Nat} {index : Nat}

/-- A pool before any of its tasks has finished. -/
def start (items : Array Value) (tally : Tally) : PoolState :=
  ⟨Array.replicate items.size none, tally⟩

/-- What a pool has left behind when some tasks have finished: their slots hold their verdicts,
which have been counted, and the others hold none. -/
structure HasDone (judge : Value → Bool) (items : Array Value) (tally : Tally) (done : List Nat)
    (state : PoolState) : Prop where
  slots : state.slots =
    items.mapIdx fun index item => if index ∈ done then some (judge item) else none
  tally : state.tally = tally.countVerdicts ((done.filterMap (items[·]?)).map judge)

theorem hasDone_start (judge : Value → Bool) (items : Array Value) (tally : Tally) :
    HasDone judge items tally [] (start items tally) := by
  refine ⟨?_, by simp [start, Tally.countVerdicts]⟩
  apply Array.ext
  · simp [start]
  · intro index _ _
    simp [start]

theorem HasDone.finish (h : HasDone judge items tally done state) (hindex : index < items.size) :
    HasDone judge items tally (done ++ [index]) (state.finish judge items index) := by
  have hitem : items[index]? = some items[index] := Array.getElem?_eq_getElem hindex
  have hfinish : state.finish judge items index =
      ⟨state.slots.setIfInBounds index (some (judge items[index])),
        state.tally.countVerdict (judge items[index])⟩ := by
    rw [PoolState.finish, hitem]
  rw [hfinish]
  refine ⟨?_, ?_⟩
  · dsimp only
    rw [h.slots]
    apply Array.ext_getElem?
    intro other
    rw [Array.getElem?_setIfInBounds, Array.getElem?_mapIdx, Array.getElem?_mapIdx]
    by_cases heq : index = other
    · subst heq
      simp [hindex]
    · simp [heq, Ne.symm heq]
  · rw [h.tally, Tally.countVerdict_countVerdicts, List.filterMap_append, List.map_append,
      List.filterMap_cons_some hitem]
    rfl

theorem HasDone.foldl (h : HasDone judge items tally done state) {order : List Nat}
    (horder : ∀ index ∈ order, index < items.size) :
    HasDone judge items tally (done ++ order)
      (order.foldl (PoolState.finish judge items) state) := by
  induction order generalizing done state with
  | nil => simpa using h
  | cons index order ih =>
      have hnext := ih (h.finish (horder index (by simp))) fun other hother =>
        horder other (by simp [hother])
      simpa using hnext

theorem filterMap_getElem?_range (items : List Value) :
    (List.range items.length).filterMap (items.toArray[·]?) = items := by
  have hmap : (List.range items.length).map (items.toArray[·]?) = items.map some := by
    apply List.ext_getElem
    · simp
    · intro index _ hindex
      simp only [List.length_map] at hindex
      simp [hindex]
  have hid := List.filterMap_map (f := fun index => items.toArray[index]?) (g := id)
    (l := List.range items.length)
  rw [hmap] at hid
  simpa using hid.symm

/-- Once every task has finished, the slots hold the verdicts in the order of the items, and the
counts are those of judging item by item. -/
theorem HasDone.results {items : List Value}
    (h : HasDone judge items.toArray tally done state)
    (hdone : done.Perm (List.range items.length)) :
    (state.slots.toList.map (·.getD false), state.tally) = judgeInline judge items tally := by
  have hmem : ∀ index, index < items.length → index ∈ done := fun index hindex =>
    hdone.mem_iff.mpr (List.mem_range.mpr hindex)
  have hverdicts : ((done.filterMap (items.toArray[·]?)).map judge).Perm (items.map judge) := by
    have hperm := (hdone.filterMap (items.toArray[·]?)).map judge
    rwa [filterMap_getElem?_range] at hperm
  rw [judgeInline, Prod.mk.injEq]
  refine ⟨?_, ?_⟩
  · rw [h.slots]
    apply List.ext_getElem
    · simp
    · intro index hindex _
      have hlt : index < items.length := by simpa using hindex
      simp [hmem index hlt]
  · rw [h.tally, Tally.foldl_countVerdict]
    exact Tally.countVerdicts_perm hverdicts tally

end PoolState

/-- A pool in the middle of a batch: the tasks that no worker has taken yet, those that workers are
at, and what the others have left behind. -/
structure Pool where
  waiting : List Nat
  running : List Nat
  state : PoolState

namespace Pool

variable {judge : Value → Bool} {items : Array Value} {tally : Tally} {workers : Option Nat}
  {pool pool' : Pool}

/-- What may happen next in a pool: a worker takes a task, if not all of them are at one, or one
finishes the task that it is at. -/
inductive Step (judge : Value → Bool) (items : Array Value) (workers : Option Nat) :
    Pool → Pool → Prop
  | take {front running back : List Nat} {index : Nat} {state : PoolState}
      (room : ∀ n ∈ workers, running.length < n) :
      Step judge items workers ⟨front ++ index :: back, running, state⟩
        ⟨front ++ back, index :: running, state⟩
  | finish {waiting front back : List Nat} {index : Nat} {state : PoolState} :
      Step judge items workers ⟨waiting, front ++ index :: back, state⟩
        ⟨waiting, front ++ back, state.finish judge items index⟩

/-- A pool comes from another one, whatever happens in between. -/
abbrev Reaches (judge : Value → Bool) (items : Array Value) (workers : Option Nat) :
    Pool → Pool → Prop :=
  Relation.ReflTransGen (Step judge items workers)

def start (items : Array Value) (tally : Tally) : Pool :=
  ⟨List.range items.size, [], .start items tally⟩

/-- No task is left. -/
def IsIdle (pool : Pool) : Prop :=
  pool.waiting = [] ∧ pool.running = []

def results (pool : Pool) : List Bool × Tally :=
  (pool.state.slots.toList.map (·.getD false), pool.state.tally)

/-- Each task is waiting, running or done, and only what is done has left something behind. -/
def IsAccounted (judge : Value → Bool) (items : Array Value) (tally : Tally) (pool : Pool) : Prop :=
  ∃ done, (pool.waiting ++ pool.running ++ done).Perm (List.range items.size) ∧
    pool.state.HasDone judge items tally done

theorem isAccounted_start (judge : Value → Bool) (items : Array Value) (tally : Tally) :
    IsAccounted judge items tally (start items tally) :=
  ⟨[], by simp [start], PoolState.hasDone_start judge items tally⟩

theorem IsAccounted.step (h : IsAccounted judge items tally pool)
    (hstep : Step judge items workers pool pool') : IsAccounted judge items tally pool' := by
  obtain ⟨done, hperm, hdone⟩ := h
  cases hstep with
  | take room =>
      refine ⟨done, List.Perm.trans ?_ hperm, hdone⟩
      refine List.Perm.append_right _ ?_
      simp only [List.append_assoc]
      exact List.Perm.append_left _ List.perm_middle
  | @finish waiting front back index state =>
      have hindex : index < items.size := by
        refine List.mem_range.mp (hperm.mem_iff.mp ?_)
        simp
      refine ⟨done ++ [index], List.Perm.trans ?_ hperm, hdone.finish hindex⟩
      simp only [List.append_assoc]
      refine List.Perm.append_left _ (List.Perm.append_left _ ?_)
      rw [← List.append_assoc]
      exact List.perm_append_comm

theorem IsAccounted.reaches (h : IsAccounted judge items tally pool)
    (hreaches : Reaches judge items workers pool pool') : IsAccounted judge items tally pool' := by
  induction hreaches with
  | refl => exact h
  | tail _ hstep ih => exact ih.step hstep

/-- Whatever happens in a pool, once no task is left the verdicts are those of judging item by item,
and so are the counts. -/
theorem results_of_reaches {items : List Value}
    (h : Reaches judge items.toArray workers (start items.toArray tally) pool)
    (hidle : pool.IsIdle) : pool.results = judgeInline judge items tally := by
  obtain ⟨done, hperm, hdone⟩ := (isAccounted_start judge items.toArray tally).reaches h
  obtain ⟨hwaiting, hrunning⟩ := hidle
  rw [hwaiting, hrunning, List.nil_append, List.nil_append, List.size_toArray] at hperm
  exact hdone.results hperm

/-- How many things are left to happen: two for a task that waits, one for a task that runs. -/
def work (pool : Pool) : Nat :=
  2 * pool.waiting.length + pool.running.length

theorem Step.work_lt (h : Step judge items workers pool pool') : pool'.work < pool.work := by
  cases h with
  | take => simp only [work, List.length_append, List.length_cons]; omega
  | finish => simp only [work, List.length_append, List.length_cons]; omega

theorem exists_step (hworkers : ∀ n ∈ workers, 0 < n) (h : ¬ pool.IsIdle) :
    ∃ pool', Step judge items workers pool pool' := by
  obtain ⟨waiting, running, state⟩ := pool
  cases running with
  | cons index running =>
      have hfinish : Step judge items workers ⟨waiting, [] ++ index :: running, state⟩
          ⟨waiting, [] ++ running, state.finish judge items index⟩ := .finish
      exact ⟨_, hfinish⟩
  | nil =>
      cases waiting with
      | nil => exact absurd ⟨rfl, rfl⟩ h
      | cons index waiting =>
          have htake : Step judge items workers ⟨[] ++ index :: waiting, [], state⟩
              ⟨[] ++ waiting, [index], state⟩ := .take hworkers
          exact ⟨_, htake⟩

theorem exists_idle (judge : Value → Bool) (items : Array Value)
    (hworkers : ∀ n ∈ workers, 0 < n) (pool : Pool) :
    ∃ pool', Reaches judge items workers pool pool' ∧ pool'.IsIdle := by
  induction hwork : pool.work using Nat.strongRecOn generalizing pool with
  | _ n ih =>
      by_cases hidle : pool.IsIdle
      · exact ⟨pool, .refl, hidle⟩
      · obtain ⟨next, hstep⟩ := @exists_step judge items workers pool hworkers hidle
        obtain ⟨pool', hreaches, hidle'⟩ := ih next.work (hwork ▸ hstep.work_lt) next rfl
        exact ⟨pool', .head hstep hreaches, hidle'⟩

end Pool

theorem judgePooled_eq (judge : Value → Bool) (items : List Value)
    (schedule : Schedule items.length) (tally : Tally) :
    judgePooled judge items schedule.order tally = judgeInline judge items tally := by
  have horder : ∀ index ∈ schedule.order, index < items.toArray.size := by
    intro index hindex
    simpa using schedule.perm.mem_iff.mp hindex
  have hdone := (PoolState.hasDone_start judge items.toArray tally).foldl horder
  exact hdone.results (by simpa using schedule.perm)

namespace Engine

variable {suite : SignatureSuite} {source : KeySource} {engine : Engine}
  {records records' joint : Value} {items items' : List Value} {tally : Tally}

theorem judge_eq (engine : Engine) (suite : SignatureSuite) (source : KeySource)
    (items : List Value) (schedule : Schedule items.length) (tally : Tally) :
    engine.judge suite source items schedule tally =
      (items.map (verdict suite source),
        (tally.countVerdicts (items.map (verdict suite source))).countBatch) := by
  rw [judge, judgePooled_eq, ite_self, judgeInline, Tally.foldl_countVerdict]

theorem validate_eq (engine : Engine) (suite : SignatureSuite) (source : KeySource) (tally : Tally)
    (h : batchItems records = .ok items) :
    engine.validate suite source records tally =
      (.ok (items.map (verdict suite source)),
        (tally.countVerdicts (items.map (verdict suite source))).countBatch) := by
  rw [validate, h]
  dsimp only
  rw [judge_eq]

/-- The verdicts on a batch are those on its items in their order, whatever happens in a pool, and
so are the counts. Each verdict is about its own item alone. -/
structure IsPointwise (engine : Engine) (suite : SignatureSuite) (source : KeySource) : Prop where
  verdicts : ∀ {records items} tally, batchItems records = .ok items →
    engine.validate suite source records tally =
      (.ok (items.map (verdict suite source)),
        (tally.countVerdicts (items.map (verdict suite source))).countBatch)
  pooled : ∀ {records items tally pool}, batchItems records = .ok items →
    Pool.Reaches (verdict suite source) items.toArray engine.workers
      (.start items.toArray tally) pool → pool.IsIdle →
    engine.validate suite source records tally = (.ok pool.results.1, pool.results.2.countBatch)
  ends : ∀ items pool, ∃ pool',
    Pool.Reaches (verdict suite source) items engine.workers pool pool' ∧ pool'.IsIdle
  alike : ∀ (other : Engine) records tally,
    other.validate suite source records tally = engine.validate suite source records tally
  separate : ∀ {records records' items index item} tally, batchItems records = .ok items →
    batchItems records' = .ok (items.set index item) →
    ∃ verdicts verdicts', (engine.validate suite source records tally).1 = .ok verdicts ∧
      (engine.validate suite source records' tally).1 = .ok verdicts' ∧
      ∀ other, other ≠ index → verdicts'[other]? = verdicts[other]?
  append : ∀ {records records' joint items items'} tally, batchItems records = .ok items →
    batchItems records' = .ok items' → batchItems joint = .ok (items ++ items') →
    ∃ verdicts verdicts', (engine.validate suite source records tally).1 = .ok verdicts ∧
      (engine.validate suite source records' tally).1 = .ok verdicts' ∧
      (engine.validate suite source joint tally).1 = .ok (verdicts ++ verdicts')

theorem validate_pooled {pool : Pool} (h : batchItems records = .ok items)
    (hreaches : Pool.Reaches (verdict suite source) items.toArray engine.workers
      (.start items.toArray tally) pool)
    (hidle : pool.IsIdle) :
    engine.validate suite source records tally =
      (.ok pool.results.1, pool.results.2.countBatch) := by
  rw [validate_eq engine suite source tally h, Pool.results_of_reaches hreaches hidle, judgeInline,
    Tally.foldl_countVerdict]

theorem validate_alike (engine other : Engine) (suite : SignatureSuite) (source : KeySource)
    (records : Value) (tally : Tally) :
    other.validate suite source records tally = engine.validate suite source records tally := by
  cases h : batchItems records with
  | error fault => rw [validate, validate, h]
  | ok items => rw [validate_eq other suite source tally h, validate_eq engine suite source tally h]

theorem exists_ofNumbers {workers : Option Int} {threshold : Int} (hworkers : ∀ n ∈ workers, 1 ≤ n)
    (hthreshold : 1 ≤ threshold) : ∃ engine, ofNumbers workers threshold = .ok engine := by
  rw [ofNumbers, dif_pos hworkers, dif_pos hthreshold]
  exact ⟨_, rfl⟩

theorem numbers_of_ofNumbers {workers : Option Int} {threshold : Int}
    (h : ofNumbers workers threshold = .ok engine) :
    engine.workers.map Int.ofNat = workers ∧ (engine.threshold : Int) = threshold := by
  rw [ofNumbers] at h
  split at h
  · rename_i hworkers
    split at h
    · rename_i hthreshold
      obtain rfl := Except.ok.inj h
      refine ⟨?_, Int.toNat_of_nonneg (by omega)⟩
      cases workers with
      | none => rfl
      | some n =>
          have hn : 1 ≤ n := hworkers n rfl
          exact congrArg some (Int.toNat_of_nonneg (by omega))
    · cases h
  · cases h

/-- Every pool size that is none or at least one, and every threshold that is at least one, make an
engine that judges batches item by item. -/
theorem exists_isPointwise (suite : SignatureSuite) (source : KeySource) {workers : Option Int}
    {threshold : Int} (hworkers : ∀ n ∈ workers, 1 ≤ n) (hthreshold : 1 ≤ threshold) :
    ∃ engine, ofNumbers workers threshold = .ok engine ∧ engine.IsPointwise suite source := by
  obtain ⟨engine, hengine⟩ := exists_ofNumbers hworkers hthreshold
  refine ⟨engine, hengine, ?_⟩
  constructor
  case verdicts => exact fun tally h => engine.validate_eq suite source tally h
  case pooled => exact fun h hreaches hidle => validate_pooled h hreaches hidle
  case ends => exact fun items pool => Pool.exists_idle _ items engine.workers_pos pool
  case alike => exact fun other records tally => engine.validate_alike other suite source _ _
  case separate =>
    intro records records' items index item tally h h'
    refine ⟨items.map (verdict suite source), (items.set index item).map (verdict suite source),
      ?_, ?_, fun other hother => ?_⟩
    · rw [validate_eq engine suite source tally h]
    · rw [validate_eq engine suite source tally h']
    · rw [List.getElem?_map, List.getElem?_map, List.getElem?_set_ne hother.symm]
  case append =>
    intro records records' joint items items' tally h h' hjoint
    refine ⟨items.map (verdict suite source), items'.map (verdict suite source), ?_, ?_, ?_⟩
    · rw [validate_eq engine suite source tally h]
    · rw [validate_eq engine suite source tally h']
    · rw [validate_eq engine suite source tally hjoint, List.map_append]

section Example

open VerifiedCheckpoint

/-- A record that is signed, one whose key is not known, and what is no record. -/
def mixedBatch : List Value :=
  [.record (.bytes logBody.octets) (.str "K1") (.str logSignature),
    .record (.bytes logBody.octets) (.str "K2") (.str logSignature), .null]

theorem map_verdict_mixedBatch :
    mixedBatch.map (verdict .standard (logRegistry ["K1"]).source) = [true, false, false] := by
  obtain ⟨octets, haccepts⟩ := exists_accepts_logSignature
  have hfound : (logRegistry ["K1"]).source.resolve (.str "K1") = .ok (some logKey) :=
    congrArg Except.ok (resolve_logRegistry (by simp))
  have hfirst : verdict .standard (logRegistry ["K1"]).source
      (.record (.bytes logBody.octets) (.str "K1") (.str logSignature)) = true :=
    verdict_eq_true_iff.mpr ⟨logBody.octets, logKey, octets, rfl, hfound, haccepts⟩
  rw [mixedBatch, List.map_cons, hfirst]
  rfl

/-- Two workers judge a batch of three, and it does not matter which one is done first. -/
theorem exists_validate_mixedBatch :
    ∃ engine, ofNumbers (some 2) 1 = .ok engine ∧ engine.usesPool mixedBatch.length = true ∧
      engine.validate .standard (logRegistry ["K1"]).source (.list mixedBatch) .zero =
        (.ok [true, false, false],
          { Tally.zero with valid := 1, invalid := 2, batches := 1 }) := by
  have hworkers : ∀ n ∈ some (2 : Int), 1 ≤ n := by simp
  have hbatch : batchItems (.list mixedBatch) = .ok mixedBatch := rfl
  obtain ⟨engine, hengine, hpointwise⟩ :=
    exists_isPointwise .standard (logRegistry ["K1"]).source hworkers (Int.le_refl 1)
  have hverdicts := hpointwise.verdicts .zero hbatch
  rw [map_verdict_mixedBatch] at hverdicts
  refine ⟨engine, hengine, ?_, hverdicts⟩
  obtain rfl := Except.ok.inj hengine
  rfl

end Example

end Engine

end TransparencyLog
