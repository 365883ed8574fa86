import Mathlib.Data.List.Nodup
import TransparencyLog.Command.Screen
import TransparencyLog.Proofs.Command.Output
import TransparencyLog.Proofs.Command.Task
import TransparencyLog.Proofs.Key.Loading
import TransparencyLog.Proofs.Record.Appending

namespace TransparencyLog

theorem LogResponse.Stores.isShallow {tree : FileTree} {path : String} {document : Value}
    (h : Stores tree path document) : tree.IsShallow path := by
  intro octets fault hfile hload
  obtain ⟨octets', hfile', hload'⟩ := h
  obtain rfl := Option.some.inj (hfile.symm.trans hfile')
  rw [hload] at hload'
  cases hload'

namespace Command

open FileTree

/-- What is printed is a document, and nothing else. -/
def Prints (document : Value) (output : String) : Prop :=
  ∃ text, Json.print .indented document = .ok text ∧ output = text ++ "\n"

/-- A fault of the settings that can be reported: there is a home directory, and the console shows
the report of the fault. -/
structure IsReportable (console : Console) (fault : Settings.Fault) : Prop where
  home : fault ≠ .noHome
  shown : ∃ text, console.render (.text (Run.report fault.message exitError)) = .ok text

namespace Run

variable {α : Type} {suite : SignatureSuite} {console : Console} {settings : Settings}
  {registry : Registry}
  {state : State} {returned : α → State → Prop} {ended : Ending → State → Prop}

section Reports

/-- The object that a fault is reported as. -/
def faultReport (message : String) (details : List (String × String)) : Value :=
  .object (("success", .bool false) :: ("error", .str message) ::
    details.map fun detail => (.whole detail.1, .str (.whole detail.2)))

theorem isDocument_faultReport (message : String) {details : List (String × String)}
    (h : ("success" :: "error" :: details.map (·.1)).Nodup) :
    Json.IsDocument (faultReport message details) := by
  refine Json.isDocument_object ?_ fun member hmember => ?_
  · have hwhole := h.map fun (_ _ : String) => LooseText.whole.inj
    simpa [List.map_map, Function.comp_def] using hwhole
  · rcases List.mem_cons.mp hmember with rfl | hmember
    · exact .bool _
    rcases List.mem_cons.mp hmember with rfl | hdetail
    · exact .str _
    · obtain ⟨detail, -, rfl⟩ := List.mem_map.mp hdetail
      exact .str _

theorem comes_emitDocument_prints {document : Value} (hdocument : Json.IsDocument document)
    (hsilent : state.output = "") {returned : Unit → State → Prop}
    (h : ∀ state', Prints document state'.output → returned () state') :
    Comes (emitDocument document) state returned ended := by
  obtain ⟨text, hprint⟩ := hdocument.exists_print .indented
  refine comes_emitDocument hprint (h _ ⟨text, hprint, ?_⟩)
  rw [State.printed_output, hsilent, String.empty_append]

theorem comes_fail_prints (message : String) (code : Nat) (details : List (String × String))
    (hnames : ("success" :: "error" :: details.map (·.1)).Nodup) (hsilent : state.output = "") :
    Comes (fail console message code true
        (details.map fun detail => (.whole detail.1, .str (.whole detail.2)))) state
      returned fun ending state' =>
        ending = .exit code ∧ Prints (faultReport message details) state'.output := by
  rw [fail, if_pos rfl]
  refine comes_bind (comes_emitDocument_prints (isDocument_faultReport message hnames) hsilent ?_)
  exact fun state' hprints => comes_finish ⟨rfl, hprints⟩

theorem comes_fail_refused (message : String) (hsilent : state.output = "") :
    Comes (fail console message exitError true []) state returned fun ending state' =>
      ending = .exit exitError ∧ ∃ message, Prints (faultReport message []) state'.output :=
  (comes_fail_prints message exitError [] (by decide) hsilent).mono (fun _ _ h => h)
    fun _ _ h => ⟨h.1, message, h.2⟩

theorem comes_fail_says {message text : String} {code : Nat}
    (hshown : console.render (.text (report message code)) = .ok text)
    (hsilent : state.output = "") :
    Comes (fail console message code false []) state returned fun ending state' =>
      ending = .exit code ∧ state'.output = text := by
  rw [fail, if_neg Bool.false_ne_true]
  refine comes_bind
    (comes_present (fun shown hrender => comes_finish ⟨rfl, ?_⟩) fun _ hrefused => ?_)
  · obtain rfl := Except.ok.inj (hshown.symm.trans hrender)
    rw [State.printed_output, hsilent, String.empty_append]
  · rw [hshown] at hrefused
    cases hrefused

end Reports

theorem textOf_eq_ok_iff {files : FileTree} {path text : String} :
    textOf files path = .ok text ↔
      ∃ octets, files.file? path = some octets ∧ Json.fileText octets = .ok text := by
  unfold textOf
  constructor
  · intro h
    split at h
    · split at h
      · cases h
      · cases h
    · rename_i octets hread
      split at h
      · rename_i read htext
        obtain rfl := Except.ok.inj h
        exact ⟨octets, read_eq_ok_iff.mp hread, htext⟩
      · cases h
  · rintro ⟨octets, hfile, htext⟩
    rw [read_eq_ok_iff.mpr hfile]
    dsimp only
    rw [htext]

theorem stores_iff {files : FileTree} {path : String} {document : Value} :
    LogResponse.Stores files path document ↔
      ∃ text, textOf files path = .ok text ∧ Json.loadText text = .ok document := by
  simp only [LogResponse.Stores, LogResponse.loadFile_eq_ok_iff, textOf_eq_ok_iff]
  constructor
  · rintro ⟨octets, hfile, text, htext, hload⟩
    exact ⟨text, ⟨octets, hfile, htext⟩, hload⟩
  · rintro ⟨text, ⟨octets, hfile, htext⟩, hload⟩
    exact ⟨octets, hfile, text, htext, hload⟩

theorem loadText_ne_tooDeep {files : FileTree} {path text : String}
    (hshallow : files.IsShallow path) (h : textOf files path = .ok text) (fault : Json.TooDeep) :
    Json.loadText text ≠ .error (.tooDeep fault) := by
  obtain ⟨octets, hfile, htext⟩ := textOf_eq_ok_iff.mp h
  have hload := hshallow octets fault hfile
  rwa [Json.loadFile, htext] at hload

theorem comes_loadRegistry {path? : Option String} {json : Bool}
    (h : RegistryFile.load suite state.files ((nonempty? path?).getD settings.registryPath) =
      .ok registry) :
    Comes (loadRegistry suite console settings path? json) state
      (fun loaded state' => loaded = registry ∧ visible state' = visible state) ended := by
  rw [loadRegistry]
  refine comes_bind (comes_get ?_)
  refine comes_preserves_bind (isQuiet_noteEntries _) fun _ state' hvisible => ?_
  rw [h]
  exact comes_pure ⟨rfl, hvisible⟩

theorem comes_loadRegistry_refused {path? : Option String} {fault : RegistryFile.Fault}
    {returned : Registry → State → Prop} (hsilent : state.output = "")
    (hshallow : state.files.IsShallow ((nonempty? path?).getD settings.registryPath))
    (h : RegistryFile.load suite state.files ((nonempty? path?).getD settings.registryPath) =
      .error fault) :
    Comes (loadRegistry suite console settings path? true) state returned fun ending state' =>
      ending = .exit exitError ∧ ∃ message, Prints (faultReport message []) state'.output := by
  rw [loadRegistry]
  refine comes_bind (comes_get ?_)
  refine comes_preserves_bind (isQuiet_noteEntries _) fun _ state' hvisible => ?_
  have houtput : state'.output = "" := (congrArg Prod.snd hvisible).trans hsilent
  rw [h]
  cases fault with
  | tooDeep fault => exact absurd h (RegistryFile.load_ne_tooDeep hshallow fault)
  | _ => exact comes_fail_refused _ houtput

end Run

section Settings

/-- What is wrong with the settings is said, and the code is the one for errors. -/
def Outcome.SaysFault (outcome : Outcome) (console : Console) (fault : Settings.Fault) : Prop :=
  outcome.ending = .exit exitError ∧
    console.render (.text (Run.report fault.message exitError)) = .ok outcome.output

variable {suite : SignatureSuite} {console : Console} {request : Request} {files : FileTree}
  {tally : Tally}

theorem saysFault_of_settings_error {task : Task} {fault : Settings.Fault}
    (htask : request.task? = some task)
    (hsettings : Settings.ofEnvironment request.environment = .error fault)
    (hreportable : IsReportable console fault) :
    (run suite console request files tally).SaysFault console fault := by
  obtain ⟨parsed, text, rest, word, hparse, hhelp, hoperands, hword, -⟩ :=
    Request.exists_of_task? htask
  obtain ⟨shown, hshown⟩ := hreportable.shown
  have hended : ∀ setup, (outcomeOf setup files tally
      (Run.fail console fault.message exitError false [])).SaysFault console fault := by
    intro setup
    refine outcomeOf_of_comes (fun outcome => outcome.SaysFault console fault) ?_
    refine (Run.comes_fail_says hshown rfl).mono (fun _ _ h => h) ?_
    rintro _ state' ⟨rfl, houtput⟩
    exact ⟨rfl, hshown.trans (congrArg Except.ok houtput.symm)⟩
  rw [run]
  simp only [hparse, if_neg hhelp, hoperands, hword, hsettings]
  cases fault with
  | noHome => exact absurd rfl hreportable.home
  | notNumber => exact hended _
  | tooSmall => exact hended _

section Example

def plainEnvironment : Environment :=
  ⟨[("HOME", "/root")], none⟩

theorem settings_of_plainEnvironment :
    ∃ settings, Settings.ofEnvironment plainEnvironment = .ok settings :=
  ⟨_, rfl⟩

def crowdedEnvironment : Environment :=
  ⟨[("HOME", "/root"), ("LOGTRUST_MAX_WORKERS", "many")], none⟩

theorem settings_of_crowdedEnvironment :
    Settings.ofEnvironment crowdedEnvironment =
      .error (.notNumber "LOGTRUST_MAX_WORKERS" "many") := by
  decide +kernel

theorem isReportable_crowded :
    IsReportable .standard (.notNumber "LOGTRUST_MAX_WORKERS" "many") :=
  ⟨by decide, "Error: LOGTRUST_MAX_WORKERS must be an integer, got 'many'\n", by decide +kernel⟩

/-- What a screen says of a report that closes a tag which nothing has opened. -/
def unopenedTag : Console.Fault :=
  .marks "closing tag '[/x]' doesn't match any open tag"

end Example

end Settings

end Command

end TransparencyLog
