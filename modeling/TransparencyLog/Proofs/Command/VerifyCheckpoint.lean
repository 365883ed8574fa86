import TransparencyLog.Proofs.Checkpoint.Transport
import TransparencyLog.Proofs.Command.Inputs

namespace TransparencyLog

namespace SignedCheckpoint

variable {text : String} {checkpoint : SignedCheckpoint}

theorem ofJson_str_eq_ok_iff :
    ofJson (.str text) = .ok checkpoint ↔
      ∃ document, Json.loadText text = .ok document ∧ ofValue document = .ok checkpoint := by
  rw [ofJson, Json.load]
  cases Json.loadText text with
  | error cause => cases cause <;> simp
  | ok document =>
      cases hread : ofValue document with
      | ok read => simp [hread]
      | error fault => simp [hread]

theorem loadText_of_ofJson {fault : Json.TooDeep}
    (h : ofJson (.str text) = .error (.tooDeep fault)) :
    Json.loadText text = .error (.tooDeep fault) := by
  rw [ofJson, Json.load] at h
  cases hload : Json.loadText text with
  | error cause =>
      rw [hload] at h
      cases cause with
      | tooDeep deep => rw [IntakeFault.tooDeep.inj (Except.error.inj h)]
      | _ => cases h
  | ok document =>
      rw [hload] at h
      cases document with
      | map members =>
          dsimp only [ofValue, ofMembers] at h
          split at h
          · cases h
          · split at h
            · cases h
            · cases h
      | _ => cases h

end SignedCheckpoint

namespace Command

open FileTree

variable {suite : SignatureSuite} {console : Console} {settings : Settings}
  {options : VerifyOptions}
  {checkpoint : SignedCheckpoint} {registry : Registry}

/-- What a request to verify a checkpoint needs is in order: the checkpoint is stored, and the
registry can be loaded. A registry that is named by an empty text is not asked for. -/
structure VerifyOptions.IsInOrder (options : VerifyOptions) (suite : SignatureSuite)
    (settings : Settings) (files : FileTree) (checkpoint : SignedCheckpoint)
    (registry : Registry) : Prop where
  checkpoint : ∃ document, LogResponse.Stores files options.checkpointPath document ∧
    SignedCheckpoint.ofValue document = .ok checkpoint
  registry : RegistryFile.load suite files
    ((nonempty? options.registry).getD settings.registryPath) = .ok registry

namespace Run

/-- What is reported of a checkpoint that is verified. -/
def verifiedReport (verified : VerifiedCheckpoint) : Value :=
  .object [("success", .bool true), ("root", .str verified.root.text),
    ("key_id", .str verified.keyId), ("origin", .str verified.body.origin),
    ("size", .int verified.body.size), ("root_hash", .str verified.body.rootHash)]

/-- What is reported of a checkpoint that is not trusted. -/
def distrustReport (fault : TrustFault) : Value :=
  faultReport fault.message [("error_type", fault.kind.label)]

theorem isDocument_verifiedReport {verified : VerifiedCheckpoint}
    (h : checkpoint.verify suite registry.source = .ok verified) :
    Json.IsDocument (verifiedReport verified) := by
  have hcontent := (VerifiedCheckpoint.verify_eq_ok_iff.mp h).1
  have hbody := VerifiedCheckpoint.wellFormed_of_readValue hcontent
  obtain ⟨n, hn⟩ := Int.eq_ofNat_of_zero_le hbody.size_nonneg
  have hsize : Numeral.IsShort n := by
    have hlength := hbody.length_size
    rwa [hn] at hlength
  refine Json.isDocument_object (by simp) fun member hmember => ?_
  simp only [List.mem_cons, List.not_mem_nil, or_false] at hmember
  rcases hmember with rfl | rfl | rfl | rfl | rfl | rfl
  · exact .bool _
  · exact .str _
  · exact .str _
  · exact .str _
  · rw [hn]
    exact .int hsize.write_eq
  · exact .str _

section Steps

variable {state : State} (hsilent : state.output = "")

include hsilent

/-- Where something is out of order with the files, the run ends with the code for errors, and what
it is is reported. -/
theorem comes_verifyCheckpoint_refused (hjson : options.json = true)
    (hcheckpoint : state.files.IsShallow options.checkpointPath)
    (hregistry : state.files.IsShallow
      ((nonempty? options.registry).getD settings.registryPath))
    (hrefused : ∀ checkpoint registry,
      ¬ options.IsInOrder suite settings state.files checkpoint registry) :
    Comes (verifyCheckpoint suite console settings options) state
      (fun _ _ => False) fun ending state' =>
      ending = .exit exitError ∧ ∃ message, Prints (faultReport message []) state'.output := by
  rw [verifyCheckpoint, hjson]
  refine comes_bind (comes_get ?_)
  split
  · exact comes_fail_refused _ hsilent
  · rename_i text htext
    split
    · rename_i fault hread
      exact absurd (SignedCheckpoint.loadText_of_ofJson hread)
        (loadText_ne_tooDeep hcheckpoint htext fault)
    · exact comes_fail_refused _ hsilent
    · rename_i checkpoint hread
      obtain ⟨document, hload, hread⟩ := SignedCheckpoint.ofJson_str_eq_ok_iff.mp hread
      cases hregistered : RegistryFile.load suite state.files
          ((nonempty? options.registry).getD settings.registryPath) with
      | error fault => exact comes_bind (comes_loadRegistry_refused hsilent hregistry hregistered)
      | ok registry =>
          have hstores := stores_iff.mpr ⟨text, htext, hload⟩
          exact absurd ⟨⟨document, hstores, hread⟩, hregistered⟩ (hrefused checkpoint registry)

theorem comes_judgeCheckpoint_error {fault : TrustFault}
    (h : checkpoint.verify suite registry.source = .error (.trust fault))
    {returned : VerifiedCheckpoint → State → Prop} :
    Comes (judgeCheckpoint suite console registry checkpoint true) state returned
      fun ending state' =>
      ending = .exit exitInvalid ∧ Prints (distrustReport fault) state'.output := by
  rw [judgeCheckpoint]
  refine comes_bind (comes_modify ?_)
  rw [h]
  refine comes_preserves_bind (isQuiet_note _ _ _ _) fun _ state' hvisible => ?_
  exact comes_fail_prints fault.message exitInvalid [("error_type", fault.kind.label)] (by simp)
    ((congrArg Prod.snd hvisible).trans hsilent)

theorem comes_judgeCheckpoint_ok {verified : VerifiedCheckpoint} {ended : Ending → State → Prop}
    (h : checkpoint.verify suite registry.source = .ok verified) :
    Comes (judgeCheckpoint suite console registry checkpoint true) state
      (fun verified' state' => verified' = verified ∧ state'.output = "") ended := by
  rw [judgeCheckpoint]
  refine comes_bind (comes_modify ?_)
  rw [h]
  refine comes_preserves_bind (isQuiet_note _ _ _ _) fun _ _ hfirst => ?_
  refine comes_preserves_bind (isQuiet_note _ _ _ _) fun _ _ hsecond => comes_pure ⟨rfl, ?_⟩
  exact (congrArg Prod.snd (hsecond.trans hfirst)).trans hsilent

theorem comes_verifyCheckpoint_of_isInOrder (hjson : options.json = true)
    (horder : options.IsInOrder suite settings state.files checkpoint registry)
    {returned : Unit → State → Prop} {ended : Ending → State → Prop}
    (h : ∀ state', state'.output = "" →
      Comes (judgeCheckpoint suite console registry checkpoint true) state'
        (fun verified after => Comes (emitDocument (verifiedReport verified)) after returned ended)
        ended) :
    Comes (verifyCheckpoint suite console settings options) state returned ended := by
  obtain ⟨⟨document, hstores, hread⟩, hregistry⟩ := horder
  obtain ⟨text, htext, hload⟩ := stores_iff.mp hstores
  rw [verifyCheckpoint, hjson]
  refine comes_bind (comes_get ?_)
  rw [htext]
  dsimp only
  rw [SignedCheckpoint.ofJson_str_eq_ok_iff.mpr ⟨document, hload, hread⟩]
  simp only [Bool.not_true, Bool.false_eq_true, if_false, if_true]
  refine comes_bind ((comes_loadRegistry hregistry).mono ?_ fun _ _ h => h)
  rintro _ loaded ⟨rfl, hloaded⟩
  exact comes_bind (h loaded ((congrArg Prod.snd hloaded).trans hsilent))

end Steps

end Run

/-- Judging the stored checkpoint has a result: the settings and the files are in order. -/
def VerifyOptions.Yields (options : VerifyOptions) (suite : SignatureSuite)
    (environment : Environment) (files : FileTree)
    (result : Except CheckpointFault VerifiedCheckpoint) : Prop :=
  ∃ settings checkpoint registry, Settings.ofEnvironment environment = .ok settings ∧
    options.IsInOrder suite settings files checkpoint registry ∧
    checkpoint.verify suite registry.source = result

/-- The contents of the stored checkpoint, if there is one, are read or refused as malformed. -/
def VerifyOptions.CarriesStatements (options : VerifyOptions) (files : FileTree) : Prop :=
  ∀ document checkpoint, LogResponse.Stores files options.checkpointPath document →
    SignedCheckpoint.ofValue document = .ok checkpoint →
      (∃ body, CheckpointBody.read checkpoint.content = .ok body) ∨
        ∃ cause, CheckpointBody.read checkpoint.content = .error (.malformed cause)

/-- What a request to verify a checkpoint comes to: one of three codes, with the report that belongs
to it. -/
structure JudgesCheckpoint (suite : SignatureSuite) (console : Console) (environment : Environment)
    (options : VerifyOptions) (files : FileTree) (outcome : Outcome) : Prop where
  handled : outcome.ending ∈ [.exit 0, .exit exitInvalid, .exit exitError]
  refused : outcome.ending = .exit exitError ↔
    ∀ result, ¬ options.Yields suite environment files result
  distrusted : outcome.ending = .exit exitInvalid ↔
    ∃ fault, options.Yields suite environment files (.error (.trust fault))
  verified : outcome.ending = .exit 0 ↔
    ∃ verified, options.Yields suite environment files (.ok verified)
  saysSettings : ∀ fault, Settings.ofEnvironment environment = .error fault →
    outcome.SaysFault console fault
  reportsRefusal : (∃ settings, Settings.ofEnvironment environment = .ok settings) →
    (∀ result, ¬ options.Yields suite environment files result) →
      ∃ message, Prints (Run.faultReport message []) outcome.output
  reportsDistrust : ∀ fault, options.Yields suite environment files (.error (.trust fault)) →
    Prints (Run.distrustReport fault) outcome.output
  reportsVerified : ∀ verified, options.Yields suite environment files (.ok verified) →
    Prints (Run.verifiedReport verified) outcome.output

section Runs

variable {request : Request} {files : FileTree} {tally : Tally}

theorem VerifyOptions.not_yields_encoding
    (hwhole : ∀ document checkpoint, LogResponse.Stores files options.checkpointPath document →
      SignedCheckpoint.ofValue document = .ok checkpoint → checkpoint.keyId.IsWhole)
    (environment : Environment) (fault : EncodingFault) :
    ¬ options.Yields suite environment files (.error (.encoding fault)) := by
  rintro ⟨settings, checkpoint, registry, -, horder, hresult⟩
  obtain ⟨document, hstores, hread⟩ := horder.checkpoint
  have hsource : ∀ id, registry.source.resolve (.str id) = .ok (registry.resolve id) := fun _ => rfl
  rcases VerifiedCheckpoint.cases_of_verify_error hsource hresult with
    ⟨_, ⟨⟩⟩ | ⟨_, ⟨⟩, -⟩ | ⟨_, -, htorn⟩
  exact htorn (hwhole document checkpoint hstores hread)

theorem VerifyOptions.CarriesStatements.yields_cases (hcontent : options.CarriesStatements files)
    (environment : Environment)
    (hencoded : ∀ fault, ¬ options.Yields suite environment files (.error (.encoding fault))) :
    (∀ result, ¬ options.Yields suite environment files result) ∨
      (∃ fault, options.Yields suite environment files (.error (.trust fault))) ∨
      ∃ verified, options.Yields suite environment files (.ok verified) := by
  by_cases hyields : ∃ result, options.Yields suite environment files result
  · obtain ⟨result, settings, checkpoint, registry, hsettings, horder, hresult⟩ := hyields
    obtain ⟨document, hstores, hread⟩ := horder.checkpoint
    cases result with
    | ok verified => exact .inr (.inr ⟨verified, _, _, _, hsettings, horder, hresult⟩)
    | error fault =>
        have hsource : ∀ id, registry.source.resolve (.str id) = .ok (registry.resolve id) :=
          fun _ => rfl
        rcases VerifiedCheckpoint.cases_of_verify_error hsource hresult with
          ⟨cause, rfl⟩ | ⟨cause, -, hoverlong⟩ | ⟨cause, rfl, -⟩
        · exact .inr (.inl ⟨cause, _, _, _, hsettings, horder, hresult⟩)
        · rcases hcontent document checkpoint hstores hread with ⟨body, hbody⟩ | ⟨other, hother⟩
          · cases hoverlong.symm.trans hbody
          · cases hoverlong.symm.trans hother
        · exact absurd ⟨_, _, _, hsettings, horder, hresult⟩ (hencoded cause)
  · exact .inl (not_exists.mp hyields)

variable (htask : request.task? = some (.verifyCheckpoint options)) (hjson : options.json = true)

include htask hjson

theorem outcome_of_refused (hsettings : Settings.ofEnvironment request.environment = .ok settings)
    (hcheckpoint : files.IsShallow options.checkpointPath)
    (hregistry : files.IsShallow ((nonempty? options.registry).getD settings.registryPath))
    (hrefused : ∀ result, ¬ options.Yields suite request.environment files result) :
    (run suite console request files tally).ending = .exit exitError ∧
      ∃ message, Prints (Run.faultReport message [])
        (run suite console request files tally).output := by
  refine run_of_comes_settings (fun outcome => outcome.ending = .exit exitError ∧
    ∃ message, Prints (Run.faultReport message []) outcome.output) htask hsettings
    fun setup journal => ?_
  refine (Run.comes_verifyCheckpoint_refused rfl hjson hcheckpoint hregistry ?_).mono
    (fun _ _ hfalse => hfalse.elim) fun _ _ hended => hended
  exact fun checkpoint registry horder => hrefused _ ⟨_, _, _, hsettings, horder, rfl⟩

theorem outcome_of_distrusted {fault : TrustFault}
    (h : options.Yields suite request.environment files (.error (.trust fault))) :
    (run suite console request files tally).ending = .exit exitInvalid ∧
      Prints (Run.distrustReport fault) (run suite console request files tally).output := by
  obtain ⟨settings, checkpoint, registry, hsettings, horder, hresult⟩ := h
  refine run_of_comes_settings (fun outcome => outcome.ending = .exit exitInvalid ∧
    Prints (Run.distrustReport fault) outcome.output) htask hsettings fun setup journal => ?_
  refine Run.comes_verifyCheckpoint_of_isInOrder rfl hjson horder fun state hsilent => ?_
  exact (Run.comes_judgeCheckpoint_error hsilent hresult).mono (fun _ _ h => h) fun _ _ h => h

theorem outcome_of_verified {verified : VerifiedCheckpoint}
    (h : options.Yields suite request.environment files (.ok verified)) :
    (run suite console request files tally).ending = .exit 0 ∧
      Prints (Run.verifiedReport verified) (run suite console request files tally).output := by
  obtain ⟨settings, checkpoint, registry, hsettings, horder, hresult⟩ := h
  refine run_of_comes_settings (fun outcome => outcome.ending = .exit 0 ∧
    Prints (Run.verifiedReport verified) outcome.output) htask hsettings fun setup journal => ?_
  refine Run.comes_verifyCheckpoint_of_isInOrder rfl hjson horder fun state hsilent => ?_
  refine (Run.comes_judgeCheckpoint_ok hsilent hresult).mono ?_ fun _ _ h => h
  rintro _ judged ⟨rfl, hquiet⟩
  exact Run.comes_emitDocument_prints (Run.isDocument_verifiedReport hresult) hquiet
    fun _ hprints => ⟨rfl, hprints⟩

end Runs

theorem ending_iff_of_ways {ending : Ending} {refused distrusted verified : Prop}
    (hways : refused ∨ distrusted ∨ verified) (hrefused : refused → ending = .exit exitError)
    (hdistrusted : distrusted → ending = .exit exitInvalid)
    (hverified : verified → ending = .exit 0) :
    ending ∈ [.exit 0, .exit exitInvalid, .exit exitError] ∧
      (ending = .exit exitError ↔ refused) ∧ (ending = .exit exitInvalid ↔ distrusted) ∧
      (ending = .exit 0 ↔ verified) := by
  rcases hways with h | h | h
  · obtain rfl := hrefused h
    exact ⟨by simp, ⟨fun _ => h, hrefused⟩, ⟨fun hcode => absurd hcode (by decide), hdistrusted⟩,
      ⟨fun hcode => absurd hcode (by decide), hverified⟩⟩
  · obtain rfl := hdistrusted h
    exact ⟨by simp, ⟨fun hcode => absurd hcode (by decide), hrefused⟩, ⟨fun _ => h, hdistrusted⟩,
      ⟨fun hcode => absurd hcode (by decide), hverified⟩⟩
  · obtain rfl := hverified h
    exact ⟨by simp, ⟨fun hcode => absurd hcode (by decide), hrefused⟩,
      ⟨fun hcode => absurd hcode (by decide), hdistrusted⟩, ⟨fun _ => h, hverified⟩⟩

/-- A request to verify a checkpoint, with an object as its report, ends in one of three ways,
whatever the files are, if what is wrong with the settings can be reported, and if no signature is
accepted under a key id that cannot be encoded. -/
theorem run_verifyCheckpoint_trichotomy (suite : SignatureSuite) (console : Console)
    {request : Request} {options : VerifyOptions} {files : FileTree} (tally : Tally)
    (htask : request.task? = some (.verifyCheckpoint options)) (hjson : options.json = true)
    (hcheckpoint : files.IsShallow options.checkpointPath)
    (hregistry : ∀ settings, Settings.ofEnvironment request.environment = .ok settings →
      files.IsShallow ((nonempty? options.registry).getD settings.registryPath))
    (hcontent : options.CarriesStatements files)
    (hencoded : ∀ fault,
      ¬ options.Yields suite request.environment files (.error (.encoding fault)))
    (hreportable : ∀ fault, Settings.ofEnvironment request.environment = .error fault →
      IsReportable console fault) :
    JudgesCheckpoint suite console request.environment options files
      (run suite console request files tally) := by
  have hdistrusted := fun fault =>
    @outcome_of_distrusted suite console options request files tally htask hjson fault
  have hverified := fun verified =>
    @outcome_of_verified suite console options request files tally htask hjson verified
  have hsaid := fun fault hsettings =>
    @saysFault_of_settings_error suite console request files tally _ fault htask hsettings
      (hreportable fault hsettings)
  have hreported := fun settings hsettings =>
    @outcome_of_refused suite console settings options request files tally htask hjson hsettings
      hcheckpoint
      (hregistry settings hsettings)
  have hrefused : (∀ result, ¬ options.Yields suite request.environment files result) →
      (run suite console request files tally).ending = .exit exitError := by
    intro hno
    cases hsettings : Settings.ofEnvironment request.environment with
    | error fault => exact (hsaid fault hsettings).1
    | ok settings => exact (hreported settings hsettings hno).1
  obtain ⟨hhandled, hrefused, hinvalid, hvalid⟩ :=
    ending_iff_of_ways (hcontent.yields_cases request.environment hencoded) hrefused
      (fun ⟨fault, hfault⟩ => (hdistrusted fault hfault).1)
      (fun ⟨verified, hjudged⟩ => (hverified verified hjudged).1)
  exact {
    handled := hhandled
    refused := hrefused
    distrusted := hinvalid
    verified := hvalid
    saysSettings := hsaid
    reportsRefusal := fun ⟨settings, hsettings⟩ hno => (hreported settings hsettings hno).2
    reportsDistrust := fun fault hfault => (hdistrusted fault hfault).2
    reportsVerified := fun verified hjudged => (hverified verified hjudged).2 }

section Example

open VerifiedCheckpoint

/-- The statements of the log with a signature, as they are stored. -/
def signedDocument (signature : String) : Value :=
  .object [("contents", .str logBody.text), ("keyId", .str "K1"), ("signature", .str signature)]

def signedFiles (signature : String) : FileTree :=
  ⟨[(["checkpoint.json"], .file
      ((FileAction.documentOctets (signedDocument signature)).toOption.getD [])),
    (["keys.json"], .file ((FileAction.documentOctets
      (RegistryFile.document (logRegistry ["K1"]).entries)).toOption.getD []))]⟩

def signedOptions : VerifyOptions :=
  ⟨"checkpoint.json", some "keys.json", true⟩

def verifyRequest (environment : Environment) : Request :=
  ⟨["checkpoint", "verify", "checkpoint.json", "-r", "keys.json", "--json"], environment, []⟩

theorem task?_verifyRequest (environment : Environment) :
    (verifyRequest environment).task? = some (.verifyCheckpoint signedOptions) :=
  rfl

theorem stores_signedDocument (signature : String) :
    LogResponse.Stores (signedFiles signature) "checkpoint.json" (signedDocument signature) := by
  have hdocument : Json.IsDocument (signedDocument signature) := by
    refine Json.isDocument_object (by simp) fun member hmember => ?_
    simp only [List.mem_cons, List.not_mem_nil, or_false] at hmember
    rcases hmember with rfl | rfl | rfl
    · exact .str _
    · exact .str _
    · exact .str _
  have hflat : Value.nesting (signedDocument signature) ≤ Json.nestingLimit := by
    simp [signedDocument, Value.object, Value.nesting, Value.nestingOfEntries, Json.nestingLimit]
  obtain ⟨octets, hoctets, hload⟩ := FileAction.exists_documentOctets hdocument hflat
  have hfile : (signedFiles signature).file? "checkpoint.json" =
      some ((FileAction.documentOctets (signedDocument signature)).toOption.getD []) := rfl
  rw [hoctets] at hfile
  exact ⟨octets, hfile, hload⟩

theorem ofValue_signedDocument (signature : String) :
    SignedCheckpoint.ofValue (signedDocument signature) =
      .ok ⟨logBody.octets, "K1", signature⟩ := by
  refine SignedCheckpoint.ofValue_map_eq_ok_iff.mpr
    ⟨_, SignedCheckpoint.members_eq_ok_iff.mpr ⟨logBody.text, rfl, rfl⟩, ?_⟩
  simp [Value.lookup?]

theorem load_signedFiles (signature : String) :
    RegistryFile.load .standard (signedFiles signature) "keys.json" = .ok (logRegistry ["K1"]) := by
  have hunsigned : RegistryFile.load .standard (signedFiles "") "keys.json" =
      .ok (logRegistry ["K1"]) := by
    decide +kernel
  have hread : ∀ signature, (signedFiles signature).read "keys.json" = .ok
      ((FileAction.documentOctets
        (RegistryFile.document (logRegistry ["K1"]).entries)).toOption.getD []) :=
    fun _ => read_eq_ok_iff.mpr rfl
  rw [← hunsigned]
  exact RegistryFile.load_congr ((hread signature).trans (hread "").symm)

theorem isInOrder_signedOptions (settings : Settings) (signature : String) :
    signedOptions.IsInOrder .standard settings (signedFiles signature)
      ⟨logBody.octets, "K1", signature⟩ (logRegistry ["K1"]) where
  checkpoint := ⟨_, stores_signedDocument signature, ofValue_signedDocument signature⟩
  registry := load_signedFiles signature

theorem carriesStatements_signedOptions (signature : String) :
    signedOptions.CarriesStatements (signedFiles signature) := by
  intro document checkpoint hstores hread
  obtain rfl := hstores.unique (stores_signedDocument signature)
  obtain rfl := Except.ok.inj (hread.symm.trans (ofValue_signedDocument signature))
  exact .inl ⟨logBody, CheckpointBody.read_octets wellFormed_logBody⟩

theorem isWhole_signedFiles (signature : String) (document : Value)
    (checkpoint : SignedCheckpoint)
    (hstores : LogResponse.Stores (signedFiles signature) "checkpoint.json" document)
    (hread : SignedCheckpoint.ofValue document = .ok checkpoint) : checkpoint.keyId.IsWhole := by
  obtain rfl := hstores.unique (stores_signedDocument signature)
  obtain rfl := Except.ok.inj (hread.symm.trans (ofValue_signedDocument signature))
  exact ⟨"K1", rfl⟩

theorem verify_signed :
    ∃ verified, SignedCheckpoint.verify .standard (logRegistry ["K1"]).source
      ⟨logBody.octets, "K1", logSignature⟩ = .ok verified := by
  obtain ⟨octets, haccepts⟩ := exists_accepts_logSignature
  obtain ⟨root, -, hverify⟩ :=
    @verify_logBody ["K1"] ['\n'] octets List.mem_cons_self (by simp [Text.lineEnds]) haccepts
  rw [CheckpointBody.octetsWith_lf] at hverify
  exact ⟨_, hverify⟩

theorem verify_unsigned :
    SignedCheckpoint.verify .standard (logRegistry ["K1"]).source ⟨logBody.octets, "K1", ""⟩ =
      .error (.trust (.verification (.signature .notText))) := by
  have hread : CheckpointBody.readValue (.bytes logBody.octets) = .ok logBody :=
    CheckpointBody.read_octets wellFormed_logBody
  have htraced := @verifyTraced_of_noSignature .standard (logRegistry ["K1"]).source _ _ hread "K1"
    (by decide)
  rw [SignedCheckpoint.verify, ← verifyTraced_fst, htraced]

/-- A checkpoint that is signed is verified, one without a signature is not trusted, and where the
number of workers is refused nothing is verified. -/
theorem judgesCheckpoint_signedFiles :
    (run .standard .standard (verifyRequest plainEnvironment)
      (signedFiles logSignature) .zero).ending =
        .exit 0 ∧
      (run .standard .standard (verifyRequest plainEnvironment) (signedFiles "") .zero).ending =
        .exit exitInvalid ∧
      Prints (Run.distrustReport (.verification (.signature .notText)))
        (run .standard .standard (verifyRequest plainEnvironment) (signedFiles "") .zero).output ∧
      (run .standard .standard (verifyRequest crowdedEnvironment)
        (signedFiles logSignature) .zero).ending =
        .exit exitError := by
  have hjudges := fun environment signature =>
    run_verifyCheckpoint_trichotomy .standard .standard .zero (task?_verifyRequest environment) rfl
      (stores_signedDocument signature).isShallow
      (fun _ _ => isShallow_of_load (load_signedFiles signature))
      (carriesStatements_signedOptions signature)
      (VerifyOptions.not_yields_encoding (isWhole_signedFiles signature) environment)
  obtain ⟨settings, hsettings⟩ := settings_of_plainEnvironment
  have hplain : ∀ fault, Settings.ofEnvironment plainEnvironment = .error fault →
      IsReportable .standard fault := by
    intro fault hfault
    rw [hsettings] at hfault
    cases hfault
  have hcrowded : ∀ fault, Settings.ofEnvironment crowdedEnvironment = .error fault →
      IsReportable .standard fault := by
    intro fault hfault
    rw [settings_of_crowdedEnvironment] at hfault
    obtain rfl := Except.error.inj hfault
    exact isReportable_crowded
  obtain ⟨verified, hverified⟩ := verify_signed
  have hunsigned : signedOptions.Yields .standard plainEnvironment (signedFiles "")
      (.error (.trust (.verification (.signature .notText)))) :=
    ⟨settings, _, _, hsettings, isInOrder_signedOptions settings "", verify_unsigned⟩
  refine ⟨(hjudges plainEnvironment logSignature hplain).verified.mpr ⟨verified, settings, _, _,
      hsettings, isInOrder_signedOptions settings logSignature, hverified⟩,
    (hjudges plainEnvironment "" hplain).distrusted.mpr ⟨_, hunsigned⟩,
    (hjudges plainEnvironment "" hplain).reportsDistrust _ hunsigned,
    (hjudges crowdedEnvironment logSignature hcrowded).refused.mpr ?_⟩
  rintro result ⟨settings, checkpoint, registry, hok, -⟩
  have hrefused : Settings.ofEnvironment crowdedEnvironment = .ok settings := hok
  rw [settings_of_crowdedEnvironment] at hrefused
  cases hrefused

/-- An object without members, and a registry without keys. -/
def blankFiles : FileTree :=
  ⟨[(["c"], .file (Utf8.encode "\x7b\x7d")), (["r"], .file (Utf8.encode "\x7b\"keys\": []\x7d"))]⟩

def blankOptions : VerifyOptions :=
  ⟨"c", some "r", true⟩

def taggedVerifyRequest : Request :=
  ⟨["checkpoint", "verify", "c", "-r", "r", "--json"],
    ⟨[("HOME", "/root"), ("LOGTRUST_MAX_WORKERS", "[/x]")], none⟩, []⟩

/-- A number of workers that closes a tag is refused, and the run breaks off at the report of it. -/
theorem not_judgesCheckpoint_of_unopened_tag :
    taggedVerifyRequest.task? = some (.verifyCheckpoint blankOptions) ∧
      blankOptions.json = true ∧ blankFiles.IsShallow "c" ∧ blankFiles.IsShallow "r" ∧
      blankOptions.CarriesStatements blankFiles ∧
      (∃ fault, Settings.ofEnvironment taggedVerifyRequest.environment = .error fault) ∧
      (run .standard .standard taggedVerifyRequest blankFiles .zero).ending =
        .broken (.console unopenedTag) ∧
      ¬ JudgesCheckpoint .standard .standard taggedVerifyRequest.environment blankOptions blankFiles
        (run .standard .standard taggedVerifyRequest blankFiles .zero) := by
  have hstores : LogResponse.Stores blankFiles "c" (.map []) := ⟨Utf8.encode "\x7b\x7d", rfl, rfl⟩
  have hregistry : RegistryFile.load .standard blankFiles "r" = .ok .empty := by decide +kernel
  have hsettings : Settings.ofEnvironment taggedVerifyRequest.environment =
      .error (.notNumber "LOGTRUST_MAX_WORKERS" "[/x]") := by decide +kernel
  have hending : (run .standard .standard taggedVerifyRequest blankFiles .zero).ending =
      .broken (.console unopenedTag) := by decide +kernel
  refine ⟨rfl, rfl, hstores.isShallow, isShallow_of_load hregistry, ?_, ⟨_, hsettings⟩, hending, ?_⟩
  · intro document checkpoint hstored hread
    obtain rfl := hstored.unique hstores
    cases hread
  · intro hjudges
    have hhandled := hjudges.handled
    rw [hending] at hhandled
    simp at hhandled

end Example

end Command

end TransparencyLog
