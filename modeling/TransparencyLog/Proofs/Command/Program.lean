import TransparencyLog.Command.Program
import TransparencyLog.Proofs.Command.Run

namespace TransparencyLog.Command

variable {suite : SignatureSuite} {console : Console} {request : Request} {settings : Settings}
  {relation : FileTree → Ending → State → Prop}
  {name : CommandName} {arguments : List String}

/-- The command that the arguments of a group name, and those that are left for it. -/
def Group.named? (group : Group) (arguments : List String) : Option (CommandName × List String) :=
  match Arguments.parse [helpForm] .last arguments with
  | .ok ⟨_, _, word :: rest⟩ => (group.command? word).map (·, rest)
  | _ => none

/-- The command that a request names, and the arguments that it gives to it. -/
def Request.command? (request : Request) : Option (CommandName × List String) :=
  match Arguments.parse programForms .last request.arguments with
  | .ok ⟨_, _, word :: rest⟩ =>
      match Word.of? word with
      | some (.group group) => group.named? rest
      | some (.command name) => some (name, rest)
      | none => none
  | _ => none

example (arguments : List String) (environment : Environment) (entropy : Bytes) :
    Request.command? ⟨"keys" :: "generate" :: arguments, environment, entropy⟩ =
      some (.generateKeys, arguments) :=
  rfl

theorem Group.exists_of_named? {group : Group} {words : List String}
    (h : group.named? words = some (name, arguments)) :
    ∃ inner word, Arguments.parse [helpForm] .last words = .ok inner ∧
      inner.operands = word :: arguments ∧ group.command? word = some name := by
  rw [named?] at h
  split at h
  · rename_i values flags word rest hparse
    obtain ⟨name', hname, hpair⟩ := Option.map_eq_some_iff.mp h
    obtain ⟨rfl, rfl⟩ := Prod.mk.inj hpair
    exact ⟨_, word, hparse, rfl, hname⟩
  · cases h

theorem Request.exists_of_command? (h : request.command? = some (name, arguments)) :
    ∃ program text rest word, Arguments.parse programForms .last request.arguments = .ok program ∧
      program.operands = text :: rest ∧ Word.of? text = some word ∧
      ((∃ group, word = .group group ∧ group.named? rest = some (name, arguments)) ∨
        word = .command name ∧ rest = arguments) := by
  rw [command?] at h
  split at h
  · rename_i values flags text rest hparse
    split at h
    · rename_i group hword
      exact ⟨_, text, rest, _, hparse, rfl, hword, .inl ⟨group, rfl, h⟩⟩
    · rename_i name' hword
      obtain ⟨rfl, rfl⟩ := Prod.mk.inj (Option.some.inj h)
      exact ⟨_, text, rest, _, hparse, rfl, hword, .inr ⟨rfl, rfl⟩⟩
    · cases h
  · cases h

namespace Run

theorem stops_help : Stops help := by
  have hreport : IsReport (usage.forM emit) := preserves_forM fun _ => isReport_emit _
  exact stops_bind hreport.shows fun _ => stops_finish 0

section Respects

variable (hrefl : ∀ ending state, relation state.files ending state)

include hrefl

theorem respects_help_if {c : Prop} [Decidable c] {next : Unit → Run Unit}
    (hnext : Respects relation (next ())) :
    Respects relation (if c then help >>= next else next ()) := by
  intro state
  split
  · refine comes_bind ((stops_help state).mono (fun _ _ hfalse => hfalse.elim) ?_)
    intro ending state' hfiles
    rw [← hfiles]
    exact hrefl ending state'
  · exact hnext state

theorem respects_group {group : Group} {words : List String}
    (h : group.named? words = some (name, arguments))
    (hcommand : Respects relation (command suite console request settings name arguments)) :
    Respects relation (Run.group suite console request settings group words) := by
  obtain ⟨inner, word, hparse, hoperands, hname⟩ := Group.exists_of_named? h
  rw [Run.group, hparse]
  refine respects_help_if hrefl ?_
  dsimp only
  rw [hoperands]
  dsimp only
  rw [hname]
  exact hcommand

theorem respects_follow {word : Word} {rest : List String}
    (h : (∃ group, word = .group group ∧ group.named? rest = some (name, arguments)) ∨
      word = .command name ∧ rest = arguments)
    (hcommand : Respects relation (command suite console request settings name arguments)) :
    Respects relation (follow suite console request settings word rest) := by
  intro state
  rw [follow.eq_def]
  refine comes_report_if (isReport_note _ _ _ _) fun state' hfiles => ?_
  rw [← hfiles]
  rcases h with ⟨group, rfl, hnamed⟩ | ⟨rfl, rfl⟩
  · exact respects_group hrefl hnamed hcommand state'
  · exact hcommand state'

end Respects

end Run

/-- What is seen of a state in which a run ends. -/
def State.outcome (state : State) (setup : Journal.Setup) (ending : Ending) : Outcome :=
  ⟨ending, state.output, setup, state.journal, state.files, state.tally, state.generated⟩

theorem exists_outcomeOf_eq {setup : Journal.Setup} {files : FileTree} {tally : Tally}
    {run : Run Unit} (h : Run.Respects relation run)
    (hfail : (outcomeOf setup files tally run).ending.code ≠ 0) :
    ∃ ending state, outcomeOf setup files tally run = state.outcome setup ending ∧
      relation files ending state := by
  have hcomes := h ⟨files, tally, [], "", none⟩
  rw [Run.Comes] at hcomes
  rw [outcomeOf] at hfail ⊢
  rcases hrun : run.run.run ⟨files, tally, [], "", none⟩ with ⟨result, state⟩
  rw [hrun] at hcomes
  simp only [hrun] at hfail ⊢
  cases result with
  | ok _ => exact absurd rfl hfail
  | error ending => exact ⟨ending, state, rfl, hcomes⟩

theorem exists_run_eq_of_command? (hrefl : ∀ ending state, relation state.files ending state)
    (h : request.command? = some (name, arguments))
    (hcommand : ∀ settings,
      Run.Respects relation (Run.command suite console request settings name arguments))
    {files : FileTree} {tally : Tally}
    (hfail : (run suite console request files tally).ending.code ≠ 0) :
    ∃ setup ending state, run suite console request files tally = state.outcome setup ending ∧
      relation files ending state := by
  obtain ⟨program, text, rest, word, hparse, hoperands, hword, hnamed⟩ :=
    Request.exists_of_command? h
  have hended : ∀ {setup : Journal.Setup} {ended : Run Unit}, Run.Respects relation ended →
      (outcomeOf setup files tally ended).ending.code ≠ 0 →
      ∃ setup' ending state, outcomeOf setup files tally ended = state.outcome setup' ending ∧
        relation files ending state := fun hrespects hfail =>
    ⟨_, exists_outcomeOf_eq hrespects hfail⟩
  rw [run] at hfail ⊢
  simp only [hparse, hoperands, hword] at hfail ⊢
  by_cases hhelp : program.hasFlag "--help" = true
  · simp only [if_pos hhelp] at hfail ⊢
    exact hended (Run.stops_help.respects hrefl) hfail
  · simp only [if_neg hhelp] at hfail ⊢
    cases hsettings : Settings.ofEnvironment request.environment with
    | error fault =>
        simp only [hsettings] at hfail ⊢
        cases fault with
        | noHome => exact hended ((Run.stops_breakOff _).respects hrefl) hfail
        | notNumber => exact hended ((Run.stops_fail _ _ _ _).respects hrefl) hfail
        | tooSmall => exact hended ((Run.stops_fail _ _ _ _).respects hrefl) hfail
    | ok settings =>
        simp only [hsettings] at hfail ⊢
        exact hended (Run.respects_follow hrefl hnamed (hcommand settings)) hfail

end TransparencyLog.Command
