import TransparencyLog.Proofs.Command.RecordHistory
import TransparencyLog.Proofs.Command.Selection

/-!
Judging the records of a stored answer, whatever the files and the settings are. A run whose files,
settings, package and workers are in order tells whether all of the records that it judges are
valid, and reports each of them with its verdict; any other run ends with the code for errors
(`run_validateRecords_truthful`).
-/

namespace TransparencyLog

namespace LogResponse

section Stores

variable {tree : FileTree} {path : String} {document : Value} {response : LogResponse}

theorem Stores.hasRoom (h : Stores tree path document) (hread : ofValue document = .ok response)
    (hshort : ∀ entry ∈ response.packages, Numeral.IsShort entry.2.length) : HasRoom tree path := by
  intro octets document' response' hnode hload hread'
  obtain ⟨octets', hfile, hload'⟩ := h
  obtain rfl := FileNode.file.inj (Option.some.inj
    (hnode.symm.trans (FileTree.file?_eq_some_iff.mp hfile).2))
  obtain rfl := Except.ok.inj (hload.symm.trans hload')
  obtain rfl := Except.ok.inj (hread'.symm.trans hread)
  exact hshort

end Stores

end LogResponse

namespace Command

open FileTree LogResponse

variable {suite : SignatureSuite} {console : Console} {settings : Settings}
  {options : ValidateOptions}
  {registry : Registry}

/-- What a request to judge records needs is in order: the answer is stored and holds the packages
that are asked for, the registry can be loaded, and there is at least one worker. A package or a
registry that is named by an empty text is not asked for. -/
structure ValidateOptions.IsInOrder (options : ValidateOptions) (suite : SignatureSuite)
    (settings : Settings) (files : FileTree) (packages : List (LooseText × List LogRecord))
    (registry : Registry) : Prop where
  answer : ∃ document response, Stores files options.logs document ∧
    ofValue document = .ok response ∧ response.Selects (nonempty? options.package) packages
  registry : RegistryFile.load suite files
    ((nonempty? options.registry).getD settings.registryPath) = .ok registry
  workers : ∀ n ∈ options.workers, 1 ≤ n

/-- Packages are reported truthfully: the code tells whether all of their records are valid, and
what is printed lists each package with its records, their places and their verdicts. -/
structure ReportsVerdicts (suite : SignatureSuite) (registry : Registry)
    (packages : List (LooseText × List LogRecord)) (ending : Ending) (output : String) : Prop where
  valid : ending = .exit 0 ↔
    ∀ package ∈ packages, ∀ record ∈ package.2,
      verdict suite registry.source record.toItem = true
  invalid : ending = .exit exitInvalid ↔
    ∃ package ∈ packages, ∃ record ∈ package.2,
      verdict suite registry.source record.toItem = false
  report : ∃ text,
    Json.print .indented (Run.verdictReport suite registry.source packages) = .ok text ∧
      output = text ++ "\n"

theorem exit_eq_zero_iff {valid : Bool} :
    Ending.exit (if valid then 0 else exitInvalid) = .exit 0 ↔ valid = true := by
  cases valid <;> decide

theorem exit_eq_invalid_iff {valid : Bool} :
    Ending.exit (if valid then 0 else exitInvalid) = .exit exitInvalid ↔ valid = false := by
  cases valid <;> decide

theorem ReportsVerdicts.of_eq {packages : List (LooseText × List LogRecord)} {ending : Ending}
    {output text : String}
    (hending : ending = .exit (if packages.all fun package => package.2.all fun record =>
      verdict suite registry.source record.toItem then 0 else exitInvalid))
    (hprint : Json.print .indented (Run.verdictReport suite registry.source packages) = .ok text)
    (houtput : output = text ++ "\n") :
    ReportsVerdicts suite registry packages ending output := by
  refine ⟨?_, ?_, text, hprint, houtput⟩
  · rw [hending, exit_eq_zero_iff]
    simp only [List.all_eq_true]
  · rw [hending, exit_eq_invalid_iff]
    simp only [List.all_eq_false, Bool.not_eq_true]

theorem ReportsVerdicts.ending_ne {packages : List (LooseText × List LogRecord)} {ending : Ending}
    {output : String} (h : ReportsVerdicts suite registry packages ending output) :
    ending ≠ .exit exitError := by
  rintro rfl
  have hnot : ¬ ∀ package ∈ packages, ∀ record ∈ package.2,
      verdict suite registry.source record.toItem = true := fun hall =>
    absurd (h.valid.mpr hall) (by decide)
  push Not at hnot
  obtain ⟨package, hpackage, record, hrecord, hverdict⟩ := hnot
  have hended := h.invalid.mpr ⟨package, hpackage, record, hrecord, Bool.not_eq_true _ ▸ hverdict⟩
  exact absurd hended (by decide)

namespace Run

theorem loadText_of_loadDocument {text what : String} {fault : Json.TooDeep}
    (h : loadDocument what (.str text) = .error (.tooDeep fault)) :
    Json.loadText text = .error (.tooDeep fault) := by
  rw [loadDocument, Json.load] at h
  split at h
  · cases h
  · rename_i cause hload
    rw [hload]
    cases cause with
    | tooDeep deep => rw [IntakeFault.tooDeep.inj (Except.error.inj h)]
    | _ => cases h

/-- Where something is out of order, the run ends with the code for errors, and what it is is
reported. -/
theorem comes_validateRecords_refused {state : State} (hjson : options.json = true)
    (hsilent : state.output = "")
    (hlogs : state.files.IsShallow options.logs)
    (hregistry : state.files.IsShallow
      ((nonempty? options.registry).getD settings.registryPath))
    (hrefused : ∀ packages registry,
      ¬ options.IsInOrder suite settings state.files packages registry) :
    Comes (validateRecords suite console settings options) state (fun _ _ => False)
      fun ending state' =>
        ending = .exit exitError ∧ ∃ message, Prints (faultReport message []) state'.output := by
  rw [validateRecords, hjson]
  refine comes_bind (comes_get ?_)
  split
  · exact comes_fail_refused _ hsilent
  · rename_i text htext
    split
    · rename_i fault hload
      exact absurd (loadText_of_loadDocument hload) (loadText_ne_tooDeep hlogs htext fault)
    · exact comes_fail_refused _ hsilent
    · rename_i document hload
      rw [loadDocument_str_eq_ok_iff] at hload
      have hnamed := Json.isNamed_of_loadText hload
      have hstores : Stores state.files options.logs document :=
        stores_iff.mpr ⟨text, htext, hload⟩
      split
      · rename_i fault hselect
        exact absurd hselect (selectPackages_ne_unquotable hnamed fault)
      · exact comes_fail_refused _ hsilent
      · rename_i selected hselected
        obtain ⟨response, packages, hread, hselects⟩ :=
          exists_selects_of_selectPackages hnamed hselected
        cases hload : RegistryFile.load suite state.files
            ((nonempty? options.registry).getD settings.registryPath) with
        | error fault =>
            exact comes_bind (comes_loadRegistry_refused hsilent hregistry hload)
        | ok registry =>
            have hfew : options.workers.any (· < 1) = true := by
              refine Bool.not_eq_false _ |>.mp fun hmany => hrefused packages registry ?_
              refine ⟨⟨document, response, hstores, hread, hselects⟩, hload, fun n hn => ?_⟩
              rw [Option.mem_def.mp hn] at hmany
              simpa using hmany
            refine comes_bind ((comes_loadRegistry hload).mono ?_ fun _ _ h => h)
            rintro _ _ ⟨-, hvisible⟩
            rw [if_pos hfew]
            exact comes_bind (comes_fail_refused _ ((congrArg Prod.snd hvisible).trans hsilent))

theorem comes_validateRecords_of_isInOrder {state : State}
    {packages : List (LooseText × List LogRecord)} (hjson : options.json = true)
    (hroom : HasRoom state.files options.logs)
    (horder : options.IsInOrder suite settings state.files packages registry)
    (hengines : settings.SuitsEngines) (hsilent : state.output = "") :
    Comes (validateRecords suite console settings options) state
      (fun _ _ => False) fun ending state' =>
      ReportsVerdicts suite registry packages ending state'.output := by
  obtain ⟨⟨document, response, hstores, hread, hselects⟩, hregistry, hworkers⟩ := horder
  have hshort : ∀ package ∈ (packages.map named).filterMap named?,
      Numeral.IsShort package.2.length := by
    rw [filterMap_named?]
    intro package hpackage
    obtain ⟨octets, hfile, hload⟩ := hstores
    obtain ⟨entry, hentry, hrecords⟩ := hselects.exists_entry hpackage
    rw [← hrecords]
    exact hroom octets document response (file?_eq_some_iff.mp hfile).2 hload hread entry hentry
  have hjudged := comes_validateRecords_judged console state hstores
    (selectPackages_eq_ok hread hselects) hregistry hworkers hengines hshort
  rw [filterMap_named?] at hjudged
  refine hjudged.mono (fun _ _ hfalse => hfalse) fun _ _ hended => ?_
  obtain ⟨text, hprint, houtput⟩ := hended.2 hjson
  rw [hsilent, String.empty_append] at houtput
  have hending := hended.1.resolve_right fun hquiet => absurd (hjson.symm.trans hquiet.1)
    (by decide)
  exact .of_eq hending hprint houtput

end Run

/-- What a request to judge records comes to is what the files, the settings and the options say. -/
structure TellsTruth (suite : SignatureSuite) (environment : Environment)
    (options : ValidateOptions) (files : FileTree) (outcome : Outcome) : Prop where
  /-- The run ends with the code for errors if and only if there are no settings, or something is
  out of order with them. -/
  refused : outcome.ending = .exit exitError ↔
    ∀ settings packages registry, Settings.ofEnvironment environment = .ok settings →
      ¬ options.IsInOrder suite settings files packages registry
  /-- Where all is in order, the verdicts are reported; they depend on no settings. -/
  judged : ∀ {settings packages registry}, Settings.ofEnvironment environment = .ok settings →
    options.IsInOrder suite settings files packages registry →
    ReportsVerdicts suite registry packages outcome.ending outcome.output

section Runs

variable {request : Request} {files : FileTree} {tally : Tally}

theorem ending_of_refused (htask : request.task? = some (.validateRecords options))
    (hjson : options.json = true)
    (hsettings : Settings.ofEnvironment request.environment = .ok settings)
    (hlogs : files.IsShallow options.logs)
    (hregistry : files.IsShallow ((nonempty? options.registry).getD settings.registryPath))
    (hrefused : ∀ packages registry, ¬ options.IsInOrder suite settings files packages registry) :
    (run suite console request files tally).ending = .exit exitError := by
  refine run_of_comes_settings (fun outcome => outcome.ending = .exit exitError) htask hsettings
    fun setup journal => ?_
  exact (Run.comes_validateRecords_refused hjson rfl hlogs hregistry hrefused).mono
    (fun _ _ hfalse => hfalse.elim) fun _ _ hended => hended.1

theorem reportsVerdicts_of_isInOrder {packages : List (LooseText × List LogRecord)}
    (htask : request.task? = some (.validateRecords options)) (hjson : options.json = true)
    (hsettings : Settings.ofEnvironment request.environment = .ok settings)
    (hroom : HasRoom files options.logs)
    (horder : options.IsInOrder suite settings files packages registry) :
    ReportsVerdicts suite registry packages (run suite console request files tally).ending
      (run suite console request files tally).output := by
  have hengines := (Settings.isGivenBy_of_ofEnvironment hsettings).suitsEngines
  refine run_of_comes_settings
    (fun outcome => ReportsVerdicts suite registry packages outcome.ending outcome.output) htask
    hsettings fun setup journal => ?_
  exact (Run.comes_validateRecords_of_isInOrder hjson hroom horder hengines rfl).mono
    (fun _ _ hfalse => hfalse.elim) fun _ _ hended => hended

end Runs

/-- Judging records tells the truth about them, whatever the files, the registry and the package are
and however many workers there are, if what is wrong with the settings can be reported. -/
theorem run_validateRecords_truthful (suite : SignatureSuite) (console : Console)
    {request : Request} {options : ValidateOptions} {files : FileTree} (tally : Tally)
    (htask : request.task? = some (.validateRecords options)) (hjson : options.json = true)
    (hlogs : files.IsShallow options.logs)
    (hregistry : ∀ settings, Settings.ofEnvironment request.environment = .ok settings →
      files.IsShallow ((nonempty? options.registry).getD settings.registryPath))
    (hroom : HasRoom files options.logs)
    (hreportable : ∀ fault, Settings.ofEnvironment request.environment = .error fault →
      IsReportable console fault) :
    TellsTruth suite request.environment options files (run suite console request files tally) := by
  have hjudged : ∀ {settings packages registry},
      Settings.ofEnvironment request.environment = .ok settings →
      options.IsInOrder suite settings files packages registry →
      ReportsVerdicts suite registry packages (run suite console request files tally).ending
        (run suite console request files tally).output := fun hsettings horder =>
    reportsVerdicts_of_isInOrder htask hjson hsettings hroom horder
  refine ⟨⟨fun hended settings packages registry hsettings horder => ?_, fun hrefused => ?_⟩,
    hjudged⟩
  · exact (hjudged hsettings horder).ending_ne hended
  · cases hsettings : Settings.ofEnvironment request.environment with
    | error fault =>
        exact (saysFault_of_settings_error htask hsettings (hreportable fault hsettings)).1
    | ok settings =>
        exact ending_of_refused htask hjson hsettings hlogs (hregistry settings hsettings)
          fun packages registry => hrefused settings packages registry hsettings

section Example

open VerifiedCheckpoint

/-- A record of the log, one that is not signed, and a package without records. -/
def mixedPackages : List (LooseText × List LogRecord) :=
  [("app", [⟨logBody.octets, "K1", logSignature⟩, ⟨logBody.octets, "K1", ""⟩]), ("lib", [])]

def mixedDocument : Value :=
  .object [("packages", .object (mixedPackages.map fun package =>
    (package.1, .list (package.2.map LogRecord.toValue))))]

def mixedFiles : FileTree :=
  ⟨[(["logs.json"], .file ((FileAction.documentOctets mixedDocument).toOption.getD [])),
    (["keys.json"], .file (Utf8.encode keyListing))]⟩

def mixedOptions : ValidateOptions :=
  ⟨"logs.json", some "keys.json", none, some 2, true⟩

def mixedRequest (environment : Environment) : Request :=
  ⟨["records", "validate", "logs.json", "-r", "keys.json", "-w", "2", "--json"], environment, []⟩

theorem task?_mixedRequest (environment : Environment) :
    (mixedRequest environment).task? = some (.validateRecords mixedOptions) :=
  rfl

theorem isDocument_mixedDocument : Json.IsDocument mixedDocument := by
  refine Json.isDocument_object (by simp) fun member hmember => ?_
  obtain rfl := List.mem_singleton.mp hmember
  refine Json.isDocument_object (by simp [mixedPackages]) fun member hmember => ?_
  obtain ⟨package, -, rfl⟩ := List.mem_map.mp hmember
  refine .list fun item hitem => ?_
  obtain ⟨record, -, rfl⟩ := List.mem_map.mp hitem
  exact record.isDocument_toValue

theorem stores_mixedDocument : Stores mixedFiles "logs.json" mixedDocument := by
  obtain ⟨octets, hoctets, hload⟩ :=
    FileAction.exists_documentOctets isDocument_mixedDocument (by decide +kernel)
  have hfile : mixedFiles.file? "logs.json" =
      some ((FileAction.documentOctets mixedDocument).toOption.getD []) := rfl
  rw [hoctets] at hfile
  exact ⟨octets, hfile, hload⟩

theorem ofValue_mixedDocument :
    ofValue mixedDocument = .ok ⟨mixedPackages.map Run.named⟩ := by
  refine ofValue_map_eq_ok_iff.mpr ⟨_, rfl, ?_⟩
  refine .cons ⟨rfl, ⟨_, rfl⟩, _, rfl, ?_⟩ (.cons ⟨rfl, ⟨_, rfl⟩, [], rfl, .nil⟩ .nil)
  exact .cons (LogRecord.isRead_toValue _) (.cons (LogRecord.isRead_toValue _) .nil)

theorem load_mixedFiles :
    RegistryFile.load .standard mixedFiles "keys.json" = .ok (logRegistry ["K1"]) := by
  decide +kernel

theorem hasRoom_mixedFiles : HasRoom mixedFiles "logs.json" := by
  refine stores_mixedDocument.hasRoom ofValue_mixedDocument fun entry hentry => ?_
  have hfew : entry.2.length ≤ 2 := by
    revert entry
    simp [mixedPackages, Run.named]
  exact Numeral.isShort_of_lt (by omega)

theorem isInOrder_mixedOptions {settings : Settings} :
    mixedOptions.IsInOrder .standard settings mixedFiles mixedPackages (logRegistry ["K1"]) where
  answer := ⟨_, _, stores_mixedDocument, ofValue_mixedDocument, rfl⟩
  registry := load_mixedFiles
  workers := by simp [mixedOptions]

theorem verdict_of_unsigned :
    verdict .standard (logRegistry ["K1"]).source
      (LogRecord.mk logBody.octets "K1" "").toItem = false := by
  decide +kernel

/-- Of two records one is not signed, and that is reported; where the number of workers is refused
nothing is judged. -/
theorem reportsVerdicts_mixedPackages :
    ReportsVerdicts .standard (logRegistry ["K1"]) mixedPackages
        (run .standard .standard (mixedRequest plainEnvironment) mixedFiles .zero).ending
        (run .standard .standard (mixedRequest plainEnvironment) mixedFiles .zero).output ∧
      (run .standard .standard (mixedRequest plainEnvironment) mixedFiles .zero).ending =
        .exit exitInvalid ∧
      (run .standard .standard (mixedRequest crowdedEnvironment) mixedFiles .zero).ending =
        .exit exitError := by
  have htruth := fun environment => run_validateRecords_truthful .standard .standard .zero
    (task?_mixedRequest environment) rfl stores_mixedDocument.isShallow
    (fun _ _ => isShallow_of_load load_mixedFiles) hasRoom_mixedFiles
  obtain ⟨settings, hsettings⟩ := settings_of_plainEnvironment
  have hplain : ∀ fault, Settings.ofEnvironment plainEnvironment = .error fault →
      IsReportable .standard fault := by
    intro fault hfault
    rw [hsettings] at hfault
    cases hfault
  have hcrowded : ∀ fault, Settings.ofEnvironment crowdedEnvironment = .error fault →
      IsReportable .standard fault := by
    intro fault hfault
    rw [settings_of_crowdedEnvironment] at hfault
    obtain rfl := Except.error.inj hfault
    exact isReportable_crowded
  have hjudged := (htruth plainEnvironment hplain).judged hsettings isInOrder_mixedOptions
  refine ⟨hjudged, hjudged.invalid.mpr ?_, (htruth crowdedEnvironment hcrowded).refused.mpr ?_⟩
  · exact ⟨_, List.mem_cons_self, _, List.mem_cons_of_mem _ List.mem_cons_self, verdict_of_unsigned⟩
  · intro settings packages registry hok
    have hrefused : Settings.ofEnvironment crowdedEnvironment = .ok settings := hok
    rw [settings_of_crowdedEnvironment] at hrefused
    cases hrefused

/-- An answer without packages, and a registry without keys. -/
def bareFiles : FileTree :=
  ⟨[(["l"], .file (Utf8.encode "\x7b\"packages\": \x7b\x7d\x7d")),
    (["r"], .file (Utf8.encode "\x7b\"keys\": []\x7d"))]⟩

def bareOptions : ValidateOptions :=
  ⟨"l", some "r", none, none, true⟩

def taggedRequest : Request :=
  ⟨["records", "validate", "l", "-r", "r", "--json"],
    ⟨[("HOME", "/root"), ("LOGTRUST_MAX_WORKERS", "[/x]")], none⟩, []⟩

/-- A number of workers that closes a tag is refused, and the run breaks off at the report of it. -/
theorem not_tellsTruth_of_unopened_tag :
    taggedRequest.task? = some (.validateRecords bareOptions) ∧ bareOptions.json = true ∧
      bareFiles.IsShallow "l" ∧ bareFiles.IsShallow "r" ∧
      (∀ settings, Settings.ofEnvironment taggedRequest.environment ≠ .ok settings) ∧
      (run .standard .standard taggedRequest bareFiles .zero).ending =
        .broken (.console unopenedTag) ∧
      ¬ TellsTruth .standard taggedRequest.environment bareOptions bareFiles
        (run .standard .standard taggedRequest bareFiles .zero) := by
  have hlogs : bareFiles.IsShallow "l" := by
    have hload : (Json.loadFile (Utf8.encode "\x7b\"packages\": \x7b\x7d\x7d")).isOk = true := by
      decide +kernel
    intro octets fault hfile hdeep
    obtain rfl := Option.some.inj hfile
    rw [hdeep] at hload
    cases hload
  have hregistry : RegistryFile.load .standard bareFiles "r" = .ok .empty := by decide +kernel
  have hsettings : ∀ settings,
      Settings.ofEnvironment taggedRequest.environment ≠ .ok settings := by
    intro settings h
    have hrefused : Settings.ofEnvironment taggedRequest.environment =
        .error (.notNumber "LOGTRUST_MAX_WORKERS" "[/x]") := by decide +kernel
    rw [hrefused] at h
    cases h
  have hending : (run .standard .standard taggedRequest bareFiles .zero).ending =
      .broken (.console unopenedTag) := by decide +kernel
  refine ⟨rfl, rfl, hlogs, isShallow_of_load hregistry, hsettings, hending, ?_⟩
  intro htruth
  have hexit := htruth.refused.mpr fun settings _ _ h => absurd h (hsettings settings)
  rw [hending] at hexit
  cases hexit

end Example

end Command

end TransparencyLog
