import TransparencyLog.Command.Screen
import TransparencyLog.Proofs.Command.Output
import TransparencyLog.Proofs.Command.Program
import TransparencyLog.Proofs.Key.RegistryFile

namespace TransparencyLog

open FileTree

namespace KeyPair

/-- What saving a key pair may put in the stead of a file. -/
def Replaces (key : SigningKey) (path publicPath : String) (place : Place) (octets : Bytes) :
    Prop :=
  place = placeOf path ∧ octets = KeyFile.privateText key ∨
    place = placeOf publicPath ∧ octets = KeyFile.publicText key

theorem spares_save (key : SigningKey) (path publicPath : String) (tree : FileTree) :
    Spares (Replaces key path publicPath) tree ((save key path publicPath).perform tree).2 := by
  have hpair := @Spares.trans (Replaces key path publicPath)
  rw [save]
  refine FileAction.relation_bind (Spares (Replaces key path publicPath)) hpair
    (fun tree => .of_frame (FileAction.within_ensureParent path tree)) (fun _ => ?_) tree
  refine FileAction.relation_bind (Spares (Replaces key path publicPath)) hpair
    (fun tree => ?_) fun _ tree => ?_
  · exact (FileAction.spares_write _ _ tree).mono fun _ _ h => .inl h
  · split
    · exact (FileAction.spares_write _ _ tree).mono fun _ _ h => .inr h
    · exact Spares.refl _ tree

end KeyPair

namespace Command

variable {suite : SignatureSuite} {console : Console} {replaces : Place → Bytes → Prop}

/-- What making a key pair may put in the stead of a file, with the octets that it is made from. -/
def GenerateOptions.Replaces (options : GenerateOptions) (entropy : Bytes) (place : Place)
    (octets : Bytes) : Prop :=
  ∃ scheme, Scheme.ofName? options.algorithm = some scheme ∧
    KeyPair.Replaces (.generate entropy scheme) options.out (KeyPair.publicPath options.out) place
      octets

/-- The pair that is asked for has been made, and the console has refused to show that. -/
structure GenerateOptions.IsUnshown (options : GenerateOptions) (entropy : Bytes) (ending : Ending)
    (generated : Option SigningKey) : Prop where
  quiet : options.json = false
  made : ∃ scheme, Scheme.ofName? options.algorithm = some scheme ∧
    generated = some (.generate entropy scheme)
  refused : ∃ fault, ending = .broken (.console fault)

/-- What the arguments of the command ask for. -/
def GenerateOptions.IsAskedBy (options : GenerateOptions) (arguments : List String) : Prop :=
  ∃ parsed, Arguments.parse CommandName.generateKeys.forms .anywhere arguments = .ok parsed ∧
    CommandName.generateKeys.task? parsed = some (.generateKeys options)

theorem exists_of_task?_generateKeys {arguments : Arguments} {task : Task}
    (h : CommandName.generateKeys.task? arguments = some task) :
    ∃ options, task = .generateKeys options := by
  rw [CommandName.task?] at h
  obtain ⟨out, -, h⟩ := Option.bind_eq_some_iff.mp h
  split at h
  · exact ⟨_, (Option.some.inj h).symm⟩
  · cases h

namespace Run

theorem ne_empty_of_nonempty? {text? : Option String} {text : String}
    (h : nonempty? text? = some text) : text ≠ "" := by
  rw [nonempty?.eq_def] at h
  split at h
  · split at h
    · cases h
    · rename_i hempty
      obtain rfl := Option.some.inj h
      simpa using hempty
  · cases h

theorem isDocument_textOrNull (text? : Option String) : Json.IsDocument (textOrNull text?) := by
  cases text? with
  | none => exact .null
  | some text => exact .str text

theorem isDocument_pair (path publicPath keyId : String) (publicKey : LooseText)
    (registryPath? : Option String) :
    Json.IsDocument (.object [("success", .bool true), ("private_key_path", .str path),
      ("public_key_path", .str publicPath), ("key_id", .str keyId), ("public_key", .str publicKey),
      ("registry", textOrNull registryPath?)]) := by
  refine Json.isDocument_object (by simp) ?_
  intro member hmember
  simp only [List.mem_cons, List.not_mem_nil, or_false] at hmember
  rcases hmember with rfl | rfl | rfl | rfl | rfl | rfl
  · exact .bool _
  · exact .str _
  · exact .str _
  · exact .str _
  · exact .str _
  · exact isDocument_textOrNull registryPath?

theorem respects_register {path : String} (hne : path ≠ "") (entry : KeyEntry) (json : Bool) :
    Respects (fun tree _ after => Spares replaces tree after.files)
      (register suite console path entry json) := by
  intro state
  have hspares : Spares replaces state.files ((FileAction.lock path).perform state.files).2 :=
    fun _ _ hfile => .inl (FileAction.file_lock hfile)
  rw [register]
  refine comes_bind (comes_onFiles ?_)
  rcases hlock : (FileAction.lock path).perform state.files with ⟨result, locked⟩
  rw [hlock] at hspares
  cases result with
  | error fault => exact (stops_failToWrite fault json).comes hspares
  | ok _ =>
      -- where the lock could be put the path is located, and then extending is all or nothing
      have hlocate := (FileAction.locate_of_lock hne hlock).2.2
      refine comes_bind (comes_get ?_)
      refine comes_report_if (isReport_noteEntries _) fun noted hnoted => ?_
      obtain rfl : noted.files = locked := hnoted
      refine comes_bind (comes_onFiles ?_)
      refine comes_report_if (isReport_noteEntries _) fun extended hextended => ?_
      dsimp only at hextended
      cases hresult : ((RegistryFile.extend suite path entry).perform noted.files).1 with
      | ok entries => exact comes_pure trivial
      | error fault =>
          have hspares' : Spares replaces state.files extended.files := by
            rw [hextended, RegistryFile.perform_extend_error hlocate hresult]
            exact hspares
          dsimp only
          split
          · exact comes_pure trivial
          · exact (stops_breakOff _).comes hspares'
          · exact (stops_breakOff _).comes hspares'
          · exact (stops_breakOff _).comes hspares'
          · exact (stops_failToWrite _ _).comes hspares'
          · exact (stops_fail _ _ _ _).comes hspares'

/-- Making a key pair that fails has saved the pair at most, unless the console has refused to show
what has been done. -/
theorem respects_generate (entropy : Bytes) (options : GenerateOptions) :
    Respects (fun tree ending after => Spares (options.Replaces entropy) tree after.files ∨
      options.IsUnshown entropy ending after.generated)
      (generate suite console entropy options) := by
  intro state
  have hspared : ∀ {α : Type} {run : Run α} {after : State}, Stops run →
      Spares (options.Replaces entropy) state.files after.files →
      Comes run after (fun _ _ => True) fun ending after =>
        Spares (options.Replaces entropy) state.files after.files ∨
          options.IsUnshown entropy ending after.generated := fun hstops hspares =>
    (hstops.comes hspares).mono (fun _ _ _ => trivial) fun _ _ hended => .inl hended
  rw [generate]
  split
  · exact hspared (stops_fail _ _ _ _) (Spares.refl _ _)
  · rename_i scheme hscheme
    have hreplaces : ∀ place octets, KeyPair.Replaces (.generate entropy scheme) options.out
        (KeyPair.publicPath options.out) place octets → options.Replaces entropy place octets :=
      fun _ _ h => ⟨scheme, hscheme, h⟩
    have hmade : ∀ {ending : Ending} {generated : Option SigningKey}, options.json = false →
        generated = some (.generate entropy scheme) →
        (∃ fault, ending = .broken (.console fault)) →
        options.IsUnshown entropy ending generated := fun hquiet hgenerated hrefused =>
      ⟨hquiet, ⟨scheme, hscheme, hgenerated⟩, hrefused⟩
    generalize SigningKey.generate entropy scheme = key at hreplaces hmade ⊢
    have hspares := (KeyPair.spares_save key options.out (KeyPair.publicPath options.out)
      state.files).mono hreplaces
    refine comes_bind (comes_onFiles ?_)
    rcases hsave : (KeyPair.save key options.out (KeyPair.publicPath options.out)).perform
      state.files with ⟨result, saved⟩
    rw [hsave] at hspares
    cases result with
    | error fault => exact hspared (stops_failToWrite _ _) hspares
    | ok _ =>
        -- once the pair has been saved and registered, nothing is left but to show it
        extract_lets keyId after
        have hafter : ∀ state', Comes (after ()) state' (fun _ _ => True) fun ending after =>
            Spares (options.Replaces entropy) state.files after.files ∨
              options.IsUnshown entropy ending after.generated := by
          intro state'
          refine comes_bind (comes_modify ?_)
          split
          · exact (isReport_emitDocument (isDocument_pair _ _ _ _ _)).comes _
          · rename_i hjson
            exact comes_sayAll (fun _ _ => trivial) fun fault output _ =>
              .inr (hmade (Bool.not_eq_true _ ▸ hjson) rfl ⟨fault, rfl⟩)
        clear_value after
        dsimp only
        split
        · rename_i path hpath
          exact comes_bind ((respects_register (ne_empty_of_nonempty? hpath) _ _ _).mono
            (fun _ state' _ => hafter state') fun _ _ hrest => .inl (hspares.trans hrest))
        · exact hafter _

theorem respects_command_generateKeys (request : Request) (settings : Settings)
    (arguments : List String) :
    Respects (fun tree ending after =>
        Spares (fun place octets => ∃ options, GenerateOptions.IsAskedBy options arguments ∧
          options.Replaces request.entropy place octets) tree after.files ∨
        ∃ options, GenerateOptions.IsAskedBy options arguments ∧
          options.IsUnshown request.entropy ending after.generated)
      (command suite console request settings .generateKeys arguments) := by
  have hrefl : ∀ (ending : Ending) (state : State), Spares (fun place octets => ∃ options,
      GenerateOptions.IsAskedBy options arguments ∧
        options.Replaces request.entropy place octets) state.files state.files ∨
      ∃ options, GenerateOptions.IsAskedBy options arguments ∧
        options.IsUnshown request.entropy ending state.generated :=
    fun _ state => .inl (Spares.refl _ state.files)
  rw [command]
  split
  · exact (stops_finish _).respects hrefl
  · rename_i parsed hparse
    refine respects_help_if hrefl ?_
    split
    · exact (stops_finish _).respects hrefl
    · rename_i task htask
      obtain ⟨options, rfl⟩ := exists_of_task?_generateKeys htask
      intro state
      refine (respects_generate request.entropy options state).mono (fun _ _ _ => trivial) ?_
      rintro _ _ (hspares | hunshown)
      · exact .inl (hspares.mono fun _ _ h => ⟨options, ⟨parsed, hparse, htask⟩, h⟩)
      · exact .inr ⟨options, ⟨parsed, hparse, htask⟩, hunshown⟩

end Run

/-- Each file is still there after a run of the command that fails, unless the key pair that was
made has been put in its stead, or all that the run failed at was showing what it had done. -/
theorem file_of_generate_failed {request : Request} {arguments : List String} {files : FileTree}
    {tally : Tally} (hcommand : request.command? = some (.generateKeys, arguments))
    (hfail : (run suite console request files tally).ending.code ≠ 0) {place : Place}
    {octets : Bytes} (hfile : files.node? place = some (.file octets)) :
    (run suite console request files tally).files.node? place = some (.file octets) ∨
      (∃ options octets', GenerateOptions.IsAskedBy options arguments ∧
        options.Replaces request.entropy place octets' ∧
        (run suite console request files tally).files.node? place = some (.file octets')) ∨
      ∃ options, GenerateOptions.IsAskedBy options arguments ∧
        options.IsUnshown request.entropy (run suite console request files tally).ending
          (run suite console request files tally).generated := by
  obtain ⟨setup, ending, state, hrun, hspares | hunshown⟩ :=
    exists_run_eq_of_command? (fun _ state => .inl (Spares.refl _ state.files)) hcommand
      (fun settings => Run.respects_command_generateKeys request settings arguments) hfail
  · rw [hrun]
    rcases hspares place octets hfile with
      hkept | ⟨octets', ⟨options, hasked, hreplaces⟩, hreplaced⟩
    · exact .inl hkept
    · exact .inr (.inl ⟨options, octets', hasked, hreplaces, hreplaced⟩)
  · rw [hrun]
    exact .inr (.inr hunshown)

section Example

/-- A key that is kept in a file. -/
def keptKey : SigningKey :=
  .ed25519 (List.replicate 32 17) (by simp)

/-- A registry in which an id is taken. -/
def takenRegistry : String :=
  "\x7b\"keys\": [\x7b\"keyId\": \"K1\", \"publicKey\": \"x:AA==\"\x7d]\x7d"

def keptFiles : FileTree :=
  ⟨[(["k1.pem"], .file (KeyFile.privateText keptKey)),
    (["keys.json"], .file (Utf8.encode takenRegistry))]⟩

/-- A key pair is asked for under the id that is taken, at the path of the key that is kept. -/
def takenRequest : Request :=
  ⟨["keys", "generate", "--out", "k1.pem", "--key-id", "K1", "--registry", "keys.json"],
    ⟨[("HOME", "/root")], none⟩, []⟩

theorem run_takenRequest :
    (run .standard .standard takenRequest keptFiles .zero).ending = .exit exitError ∧
      (run .standard .standard takenRequest keptFiles .zero).output =
        "Error: Duplicate active key id: 'K1'\n" ∧
      (run .standard .standard takenRequest keptFiles .zero).files.node? ["k1.pem"] ≠
        some (.file (KeyFile.privateText keptKey)) := by
  decide +kernel

theorem command?_takenRequest :
    takenRequest.command? = some (.generateKeys,
      ["--out", "k1.pem", "--key-id", "K1", "--registry", "keys.json"]) := by
  decide +kernel

theorem file_keptFiles :
    keptFiles.node? ["k1.pem"] = some (.file (KeyFile.privateText keptKey)) := by
  simp [keptFiles, node?, up]

/-- The id is refused, and the key that was kept has been lost. -/
theorem key_lost_of_generate_refused :
    (takenRequest.command?.map Prod.fst = some .generateKeys ∧
      (run .standard .standard takenRequest keptFiles .zero).ending.code = exitError ∧
      (run .standard .standard takenRequest keptFiles .zero).output =
        "Error: Duplicate active key id: 'K1'\n") ∧
      keptFiles.node? ["k1.pem"] = some (.file (KeyFile.privateText keptKey)) ∧
      (run .standard .standard takenRequest keptFiles .zero).files.node? ["k1.pem"] ≠
        some (.file (KeyFile.privateText keptKey)) := by
  obtain ⟨hending, houtput, hlost⟩ := run_takenRequest
  exact ⟨⟨by rw [command?_takenRequest]; rfl, by rw [hending]; rfl, houtput⟩, file_keptFiles, hlost⟩

/-- In the stead of the key that was kept stands the one that was made. -/
theorem exists_generate_refused :
    (run .standard .standard takenRequest keptFiles .zero).ending.code ≠ 0 ∧
      ∃ options octets, GenerateOptions.Replaces options takenRequest.entropy ["k1.pem"] octets ∧
        (run .standard .standard takenRequest keptFiles .zero).files.node? ["k1.pem"] =
          some (.file octets) := by
  obtain ⟨hending, -, hlost⟩ := run_takenRequest
  have hfail : (run .standard .standard takenRequest keptFiles .zero).ending.code ≠ 0 := by
    rw [hending]
    decide
  refine ⟨hfail, ?_⟩
  rcases file_of_generate_failed command?_takenRequest hfail file_keptFiles with
    hkept | ⟨options, octets, -, hreplaces, hreplaced⟩ | ⟨options, -, -, -, fault, hrefused⟩
  · exact absurd hkept hlost
  · exact ⟨options, octets, hreplaces, hreplaced⟩
  · rw [hending] at hrefused
    cases hrefused

end Example

end Command

end TransparencyLog
