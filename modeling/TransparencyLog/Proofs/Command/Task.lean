import TransparencyLog.Proofs.Command.Program

namespace TransparencyLog.Command

variable {suite : SignatureSuite} {console : Console} {request : Request} {settings : Settings}
  {task : Task} {files : FileTree} {tally : Tally}

/-- What the arguments of a command ask for; a request for help asks for nothing. -/
def CommandName.read? (name : CommandName) (arguments : List String) : Option Task :=
  match Arguments.parse name.forms .anywhere arguments with
  | .ok parsed => if parsed.hasFlag "--help" then none else name.task? parsed
  | .error _ => none

/-- What the arguments of a group ask for. -/
def Group.read? (group : Group) (arguments : List String) : Option Task :=
  match Arguments.parse [helpForm] .last arguments with
  | .ok parsed =>
      if parsed.hasFlag "--help" then none
      else
        match parsed.operands with
        | word :: rest => (group.command? word).bind (·.read? rest)
        | [] => none
  | .error _ => none

def Word.read? (word : Word) (arguments : List String) : Option Task :=
  match word with
  | .group name => name.read? arguments
  | .command name => name.read? arguments

/-- What a request asks for. -/
def Request.task? (request : Request) : Option Task :=
  match Arguments.parse programForms .last request.arguments with
  | .ok parsed =>
      if parsed.hasFlag "--help" then none
      else
        match parsed.operands with
        | text :: rest => (Word.of? text).bind (·.read? rest)
        | [] => none
  | .error _ => none

namespace Run

theorem command_eq {name : CommandName} {arguments : List String}
    (h : name.read? arguments = some task) :
    command suite console request settings name arguments =
      perform suite console request settings task := by
  rw [CommandName.read?] at h
  rw [command]
  split at h
  · rename_i parsed hparse
    rw [hparse]
    split at h
    · cases h
    · rename_i hhelp
      simp only [if_neg hhelp, h]
  · cases h

theorem group_eq {name : Group} {arguments : List String} (h : name.read? arguments = some task) :
    group suite console request settings name arguments =
      perform suite console request settings task := by
  rw [Group.read?] at h
  rw [group]
  split at h
  · rename_i parsed hparse
    rw [hparse]
    split at h
    · cases h
    · rename_i hhelp
      split at h
      · rename_i word rest hoperands
        obtain ⟨name, hname, h⟩ := Option.bind_eq_some_iff.mp h
        simp only [if_neg hhelp, hoperands, hname]
        exact command_eq h
      · cases h
  · cases h

/-- Notes that no counts are served, and goes on. -/
def afterNote (settings : Settings) (next : Run Unit) : Run Unit := do
  if !settings.metricsEnabled then
    note "logtrust.metrics" .debug "Metrics server disabled" none
  next

theorem follow_eq {word : Word} {arguments : List String}
    (h : word.read? arguments = some task) :
    follow suite console request settings word arguments =
      afterNote settings (perform suite console request settings task) := by
  rw [follow.eq_def, afterNote]
  cases word with
  | group name =>
      have hgroup : group suite console request settings name arguments =
          perform suite console request settings task := group_eq h
      rw [← hgroup]
  | command name =>
      have hcommand : command suite console request settings name arguments =
          perform suite console request settings task := command_eq h
      rw [← hcommand]

theorem comes_afterNote {state : State} {next : Run Unit} {returned : Unit → State → Prop}
    {ended : Ending → State → Prop}
    (h : ∀ journal, Comes next { state with journal := journal } returned ended) :
    Comes (afterNote settings next) state returned ended := by
  rw [afterNote]
  split
  · exact comes_bind (comes_modify (h _))
  · exact h state.journal

section Stops

end Stops

/-- A run ends with a code that is not zero, and leaves the files as they are. -/
def Fails {α : Type} (run : Run α) : Prop :=
  ∀ state, Comes run state (fun _ _ => False)
    fun ending state' => ending.code ≠ 0 ∧ state'.files = state.files

section Fails

variable {α β : Type}

theorem Fails.bind {run : Run α} (h : Fails run) (next : α → Run β) : Fails (run >>= next) :=
  fun state => comes_bind ((h state).mono (fun _ _ hfalse => hfalse.elim) fun _ _ hended => hended)

end Fails

end Run

section Outcome

variable {setup : Journal.Setup} {run : Run Unit}

theorem outcomeOf_of_comes (property : Outcome → Prop) {files : FileTree}
    (h : Run.Comes run ⟨files, tally, [], "", none⟩
      (fun _ state => property (state.outcome setup (.exit 0)))
      (fun ending state => property (state.outcome setup ending))) :
    property (outcomeOf setup files tally run) := by
  rw [Run.Comes] at h
  rw [outcomeOf]
  rcases hrun : run.run.run ⟨files, tally, [], "", none⟩ with ⟨result, state⟩
  rw [hrun] at h
  cases result with
  | ok _ => exact h
  | error ending => exact h

end Outcome

theorem Request.exists_of_task? (h : request.task? = some task) :
    ∃ parsed text rest word, Arguments.parse programForms .last request.arguments = .ok parsed ∧
      ¬ parsed.hasFlag "--help" = true ∧ parsed.operands = text :: rest ∧
      Word.of? text = some word ∧ word.read? rest = some task := by
  rw [task?] at h
  split at h
  · rename_i parsed hparse
    split at h
    · cases h
    · rename_i hhelp
      split at h
      · rename_i text rest hoperands
        obtain ⟨word, hword, hread⟩ := Option.bind_eq_some_iff.mp h
        exact ⟨parsed, text, rest, word, hparse, hhelp, hoperands, hword, hread⟩
      · cases h
  · cases h

theorem exists_run_eq (h : request.task? = some task)
    (hsettings : Settings.ofEnvironment request.environment = .ok settings) :
    ∃ setup, run suite console request files tally = outcomeOf setup files tally
      (Run.afterNote settings (Run.perform suite console request settings task)) := by
  obtain ⟨parsed, text, rest, word, hparse, hhelp, hoperands, hword, hread⟩ :=
    Request.exists_of_task? h
  rw [run]
  simp only [hparse, if_neg hhelp, hoperands, hword, hsettings, Run.follow_eq hread]
  exact ⟨_, rfl⟩

theorem run_of_comes_settings (property : Outcome → Prop) (h : request.task? = some task)
    (hsettings : Settings.ofEnvironment request.environment = .ok settings)
    (htask : ∀ setup journal,
      Run.Comes (Run.perform suite console request settings task) ⟨files, tally, journal, "", none⟩
        (fun _ state => property (state.outcome setup (.exit 0)))
        (fun ending state => property (state.outcome setup ending))) :
    property (run suite console request files tally) := by
  obtain ⟨setup, hrun⟩ := exists_run_eq h hsettings
  rw [hrun]
  exact outcomeOf_of_comes property (Run.comes_afterNote fun journal => htask setup journal)

end TransparencyLog.Command
