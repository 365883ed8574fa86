import TransparencyLog.Command.Session
import TransparencyLog.Proofs.FileTree.Action
import TransparencyLog.Proofs.Json.Document

/-!
Runs of commands, step by step. `Comes` says what a run from a state comes to, with one rule for
each step. Reports leave the files alone (`IsReport`), notes print nothing either (`IsQuiet`), what
is shown may end a run where the console refuses it (`Shows`), and what ends a run anyway (`Stops`)
leaves the files alone, too.
-/

namespace TransparencyLog.Command

/-- A state in which more has been printed. -/
def State.printed (state : State) (text : String) : State :=
  { state with output := state.output ++ text }

@[simp] theorem State.printed_files (state : State) (text : String) :
    (state.printed text).files = state.files := rfl

@[simp] theorem State.printed_output (state : State) (text : String) :
    (state.printed text).output = state.output ++ text := rfl

theorem State.printed_empty (state : State) : state.printed "" = state := by
  rw [printed, String.append_empty]

theorem State.printed_printed (state : State) (text text' : String) :
    (state.printed text).printed text' = state.printed (text ++ text') := by
  rw [printed, printed, printed, String.append_assoc]

namespace Run

variable {α β : Type} {console : Console} {run : Run α} {state : State}
  {returned : α → State → Prop} {ended : Ending → State → Prop}

/-- What a run from a state comes to: one thing where it returns, another where it ends. -/
def Comes (run : Run α) (state : State) (returned : α → State → Prop)
    (ended : Ending → State → Prop) : Prop :=
  match run.run.run state with
  | (.ok a, state') => returned a state'
  | (.error ending, state') => ended ending state'

section Rules

theorem comes_pure {a : α} (h : returned a state) : Comes (pure a) state returned ended :=
  h

theorem comes_finish {code : Nat} (h : ended (.exit code) state) :
    Comes (finish code) state returned ended :=
  h

theorem comes_breakOff {breakdown : Breakdown} (h : ended (.broken breakdown) state) :
    Comes (breakOff breakdown) state returned ended :=
  h

theorem comes_modify {returned : Unit → State → Prop} {change : State → State}
    (h : returned () (change state)) : Comes (modify change) state returned ended :=
  h

theorem comes_get {returned : State → State → Prop} (h : returned state state) :
    Comes get state returned ended :=
  h

theorem comes_bind {returned : β → State → Prop} {next : α → Run β}
    (h : Comes run state (fun a state' => Comes (next a) state' returned ended) ended) :
    Comes (run >>= next) state returned ended := by
  have hbind : (run >>= next).run.run state =
      ExceptT.bindCont next (run.run.run state).1 (run.run.run state).2 := rfl
  rw [Comes] at h ⊢
  rw [hbind]
  rcases hrun : run.run.run state with ⟨result, state'⟩
  rw [hrun] at h
  cases result with
  | ok a => exact h
  | error ending => exact h

theorem Comes.mono {returned' : α → State → Prop} {ended' : Ending → State → Prop}
    (h : Comes run state returned ended)
    (hreturned : ∀ a state', returned a state' → returned' a state')
    (hended : ∀ ending state', ended ending state' → ended' ending state') :
    Comes run state returned' ended' := by
  rw [Comes] at h ⊢
  rcases hrun : run.run.run state with ⟨result, state'⟩
  rw [hrun] at h
  cases result with
  | ok a => exact hreturned a state' h
  | error ending => exact hended ending state' h

theorem comes_onFiles {ε : Type} {action : FileAction ε α} {returned : Except ε α → State → Prop}
    (h : returned (action.perform state.files).1
      { state with files := (action.perform state.files).2 }) :
    Comes (onFiles action) state returned ended :=
  h

end Rules

theorem comes_write {text : String} {returned : Unit → State → Prop}
    (h : returned () (state.printed text)) : Comes (write text) state returned ended :=
  h

theorem comes_present {display : Display} {returned : Unit → State → Prop}
    (hshown : ∀ text, console.render display = .ok text → returned () (state.printed text))
    (hrefused : ∀ fault, console.render display = .error fault →
      ended (.broken (.console fault)) state) :
    Comes (present console display) state returned ended := by
  rw [present]
  cases hrender : console.render display with
  | ok text => exact comes_write (hshown text hrender)
  | error fault => exact comes_breakOff (hrefused fault hrender)

-- a run is taken apart by the rules, and never by carrying it out
attribute [irreducible] Comes

/-- A run returns, and leaves what is seen of a state as it is. -/
def Preserves {γ : Type} (view : State → γ) (run : Run α) : Prop :=
  ∀ state, Comes run state (fun _ state' => view state' = view state) fun _ _ => False

/-- A run returns, and leaves the files as they are. -/
def IsReport (run : Run α) : Prop :=
  Preserves State.files run

/-- What is seen of a state without its notes. -/
def visible (state : State) : FileTree × String :=
  (state.files, state.output)

/-- A run returns, and neither changes a file nor prints anything. -/
def IsQuiet (run : Run α) : Prop :=
  Preserves visible run

/-- A run leaves what is seen of a state as it is, and ends only where the console refuses a
display. -/
def Shows {γ : Type} (view : State → γ) (run : Run α) : Prop :=
  ∀ state, Comes run state (fun _ state' => view state' = view state) fun ending state' =>
    (∃ fault, ending = .broken (.console fault)) ∧ view state' = view state

/-- A run ends, and leaves the files as they are. -/
def Stops (run : Run α) : Prop :=
  ∀ state, Comes run state (fun _ _ => False) fun _ state' => state'.files = state.files

theorem IsReport.comes {ended : Ending → State → Prop} (h : IsReport run) (state : State) :
    Comes run state (fun _ _ => True) ended :=
  (h state).mono (fun _ _ _ => trivial) fun _ _ hfalse => hfalse.elim

theorem Stops.comes {property : FileTree → Prop} (h : Stops run) (hfiles : property state.files) :
    Comes run state (fun _ _ => True) fun _ state' => property state'.files := by
  refine (h state).mono (fun _ _ _ => trivial) fun _ _ hsame => ?_
  rw [hsame]
  exact hfiles

/-- A run that ends comes to what a relation says of the files that it started with. -/
def Respects (relation : FileTree → Ending → State → Prop) (run : Run α) : Prop :=
  ∀ state, Comes run state (fun _ _ => True) (relation state.files)

theorem Stops.respects {relation : FileTree → Ending → State → Prop}
    (hrefl : ∀ ending state, relation state.files ending state) (h : Stops run) :
    Respects relation run := by
  intro state
  refine (h state).mono (fun _ _ _ => trivial) fun ending state' hsame => ?_
  rw [← hsame]
  exact hrefl ending state'

section Preserves

variable {γ : Type} {view : State → γ}

theorem comes_preserves_bind {returned : β → State → Prop} {next : α → Run β}
    (h : Preserves view run)
    (hnext : ∀ a state', view state' = view state → Comes (next a) state' returned ended) :
    Comes (run >>= next) state returned ended :=
  comes_bind ((h state).mono hnext fun _ _ hfalse => hfalse.elim)

theorem preserves_pure (a : α) : Preserves view (pure a : Run α) :=
  fun _ => comes_pure rfl

theorem preserves_bind {next : α → Run β} (h : Preserves view run)
    (hnext : ∀ a, Preserves view (next a)) : Preserves view (run >>= next) := by
  intro state
  refine comes_preserves_bind h fun a state' hview => ?_
  refine (hnext a state').mono (fun _ _ hview' => hview'.trans hview) fun _ _ hfalse => hfalse

theorem preserves_modify {change : State → State} (h : ∀ state, view (change state) = view state) :
    Preserves view (modify change) :=
  fun state => comes_modify (h state)

theorem preserves_forM {items : List β} {each : β → Run Unit}
    (h : ∀ item, Preserves view (each item)) : Preserves view (items.forM each) := by
  induction items with
  | nil => exact preserves_pure ()
  | cons item items ih => exact preserves_bind (h item) fun _ => ih

theorem IsQuiet.isReport (h : IsQuiet run) : IsReport run :=
  fun state => (h state).mono (fun _ _ hvisible => congrArg Prod.fst hvisible) fun _ _ hfalse =>
    hfalse

theorem isQuiet_note (logger : String) (level : Journal.Level) (message : LooseText)
    (trace : Option LooseText) : IsQuiet (note logger level message trace) :=
  preserves_modify fun _ => rfl

theorem isQuiet_noteEntries (entries : List KeyEntry) : IsQuiet (noteEntries entries) :=
  preserves_forM fun _ => isQuiet_note _ _ _ _

end Preserves

section Reports

theorem comes_report_if {returned : β → State → Prop} {report : Run Unit} {next : Unit → Run β}
    {c : Prop} [Decidable c] (h : IsReport report)
    (hnext : ∀ state', state'.files = state.files → Comes (next ()) state' returned ended) :
    Comes (if c then report >>= next else next ()) state returned ended := by
  split
  · exact comes_preserves_bind h fun _ => hnext
  · exact hnext state rfl

theorem isReport_emit (text : String) : IsReport (emit text) :=
  preserves_modify fun _ => rfl

theorem isReport_note (logger : String) (level : Journal.Level) (message : LooseText)
    (trace : Option LooseText) : IsReport (note logger level message trace) :=
  (isQuiet_note logger level message trace).isReport

theorem isReport_noteEntries (entries : List KeyEntry) : IsReport (noteEntries entries) :=
  (isQuiet_noteEntries entries).isReport

theorem isReport_emitDocument {document : Value} (h : Json.IsDocument document) :
    IsReport (emitDocument document) := by
  obtain ⟨text, hprint⟩ := h.exists_print .indented
  rw [emitDocument, hprint]
  exact isReport_emit _

end Reports

section Shows

variable {γ : Type} {view : State → γ}

theorem Preserves.shows (h : Preserves view run) : Shows view run :=
  fun state => (h state).mono (fun _ _ hview => hview) fun _ _ hfalse => hfalse.elim

theorem shows_present (hview : ∀ state text, view (state.printed text) = view state)
    (display : Display) : Shows view (present console display) :=
  fun state => comes_present (fun text _ => hview state text) fun fault _ => ⟨⟨fault, rfl⟩, rfl⟩

theorem shows_say (hview : ∀ state text, view (state.printed text) = view state)
    (text : LooseText) :
    Shows view (say console text) :=
  shows_present hview (.text text)

end Shows

section Stops

theorem stops_finish (code : Nat) : Stops (finish code : Run α) :=
  fun _ => comes_finish rfl

theorem stops_breakOff (breakdown : Breakdown) : Stops (breakOff breakdown : Run α) :=
  fun _ => comes_breakOff rfl

theorem stops_bind {next : α → Run β} (h : Shows State.files run) (hnext : ∀ a, Stops (next a)) :
    Stops (run >>= next) := by
  intro state
  refine comes_bind ((h state).mono (fun a state' hfiles => ?_) fun _ _ hended => hended.2)
  exact (hnext a state').mono (fun _ _ hfalse => hfalse) fun _ _ hfiles' => hfiles'.trans hfiles

theorem stops_fail (message : String) (code : Nat) (json : Bool)
    (details : List (LooseText × Value)) :
    Stops (fail console message code json details : Run α) := by
  rw [fail]
  split
  · rw [emitDocument]
    split
    · exact stops_bind (isReport_emit _).shows fun _ => stops_finish code
    · intro state
      exact comes_bind (comes_breakOff rfl)
  · exact stops_bind (shows_say (fun _ _ => rfl) _) fun _ => stops_finish code

theorem stops_failToWrite (fault : FileFault) (json : Bool) :
    Stops (failToWrite console fault json : Run α) := by
  rw [failToWrite.eq_def]
  split
  · exact stops_breakOff _
  · exact stops_fail _ _ _ _

end Stops

end Run

end TransparencyLog.Command
