import TransparencyLog.Proofs.Command.Inputs
import TransparencyLog.Proofs.Record.Appending
import TransparencyLog.Proofs.Settings

namespace TransparencyLog.Command

open FileTree

namespace Run

variable {suite : SignatureSuite} {console : Console} {registry : Registry} {engine : Engine}
  {state : State} {records : List LogRecord} {ended : Ending → State → Prop}

theorem isQuiet_noteRejections (suite : SignatureSuite) (source : KeySource)
    (records : List LogRecord) : IsQuiet (noteRejections suite source records) := by
  refine preserves_forM fun record => ?_
  dsimp only
  split
  · exact isQuiet_note _ _ _ _
  · exact isQuiet_note _ _ _ _
  · exact preserves_pure ()

/-- The records of a package with their verdicts under a source of keys. -/
def JudgedPackage.of (suite : SignatureSuite) (source : KeySource)
    (package : LooseText × List LogRecord) : JudgedPackage :=
  ⟨package.1, package.2.map fun record => (record, verdict suite source record.toItem)⟩

theorem JudgedPackage.invalid_of_eq_zero_iff {source : KeySource}
    {package : LooseText × List LogRecord} :
    (JudgedPackage.of suite source package).invalid = 0 ↔
      ∀ record ∈ package.2, verdict suite source record.toItem = true := by
  rw [JudgedPackage.invalid, JudgedPackage.of, List.countP_eq_zero]
  simp

theorem comes_judgePackage {digest : LooseText} {returned : JudgedPackage → State → Prop}
    (h : ∀ state', visible state' = visible state →
      returned (.of suite registry.source (digest, records)) state') :
    Comes (judgePackage suite engine registry digest records) state returned ended := by
  have hjudged : (JudgedPackage.of suite registry.source (digest, records)) =
      ⟨digest,
        records.zip ((records.map LogRecord.toItem).map (verdict suite registry.source))⟩ := by
    rw [JudgedPackage.of, List.map_prod_left_eq_zip, List.map_map]
    rfl
  rw [hjudged] at h
  rw [judgePackage]
  refine comes_bind (comes_get ?_)
  rw [Engine.judge_eq]
  refine comes_bind (comes_modify ?_)
  refine comes_preserves_bind (isQuiet_noteRejections _ _ _) fun _ _ hfirst => ?_
  refine comes_preserves_bind (isQuiet_note _ _ _ _) fun _ _ hsecond => ?_
  refine comes_preserves_bind (isQuiet_note _ _ _ _) fun _ state' hthird => comes_pure ?_
  exact h state' (hthird.trans (hsecond.trans hfirst))

/-- A package whose name is a text. -/
def named? : Value × List LogRecord → Option (LooseText × List LogRecord)
  | (.str digest, records) => some (digest, records)
  | _ => none

/-- A package as it stands among all of them. -/
def named (package : LooseText × List LogRecord) : Value × List LogRecord :=
  (.str package.1, package.2)

theorem filterMap_named? (packages : List (LooseText × List LogRecord)) :
    (packages.map named).filterMap named? = packages := by
  rw [List.filterMap_map]
  exact List.filterMap_some

theorem comes_judgePackages {selected : List (Value × List LogRecord)}
    {returned : List JudgedPackage → State → Prop}
    (h : ∀ state', visible state' = visible state →
      returned ((selected.filterMap named?).map (.of suite registry.source)) state') :
    Comes (judgePackages suite engine registry selected) state returned ended := by
  induction selected generalizing state returned with
  | nil => exact comes_pure (h state rfl)
  | cons entry selected ih =>
      rw [judgePackages.eq_def]
      split
      · rename_i heq
        cases heq
      · rename_i digest records rest heq
        obtain ⟨rfl, rfl⟩ := List.cons.inj heq
        refine comes_bind (comes_judgePackage fun state' hfirst => ?_)
        refine comes_bind (ih fun after hrest => comes_pure ?_)
        exact h after (hrest.trans hfirst)
      · rename_i rest hother heq
        obtain ⟨rfl, rfl⟩ := List.cons.inj heq
        have hnone : named? entry = none := by
          unfold named?
          split
          · rename_i digest records
            exact (hother digest records rfl).elim
          · rfl
        rw [List.filterMap_cons_none hnone] at h
        exact ih h

section Report

theorem lt_of_mem_numbered {α : Type} {start index : Nat} {items : List α} {item : α}
    (h : (index, item) ∈ numbered start items) : index < start + items.length := by
  induction items generalizing start with
  | nil => cases h
  | cons first items ih =>
      rw [List.length_cons]
      rcases List.mem_cons.mp h with heq | hrest
      · rw [(Prod.mk.inj heq).1]
        omega
      · have hlt := ih hrest
        omega

theorem isDocument_toValue {package : JudgedPackage}
    (h : Numeral.IsShort package.records.length) : Json.IsDocument package.toValue := by
  refine .list fun item hitem => ?_
  obtain ⟨⟨index, record, good⟩, hmem, rfl⟩ := List.mem_map.mp hitem
  have hlt : index < 0 + package.records.length := lt_of_mem_numbered hmem
  have hindex := (h.of_le (by omega : index ≤ package.records.length)).write_eq
  refine Json.isDocument_object (by simp) ?_
  intro member hmember
  simp only [List.mem_cons, List.not_mem_nil, or_false] at hmember
  rcases hmember with rfl | rfl | rfl
  · exact .int hindex
  · exact .str _
  · exact .bool _

theorem exists_printChars_object {members : List (LooseText × Value)} {layout : Json.Layout}
    (h : ∀ member ∈ members, ∀ depth, ∃ cs, Json.printChars layout depth member.2 = .ok cs)
    (depth : Nat) : ∃ cs, Json.printChars layout depth (.object members) = .ok cs := by
  have hentries : ∀ entry ∈ members.map fun member => (Value.str member.1, member.2),
      (∃ name, entry.1 = .str name) ∧
        ∃ cs, Json.printChars layout (depth + 1) entry.2 = .ok cs := by
    intro entry hentry
    obtain ⟨member, hmember, rfl⟩ := List.mem_map.mp hentry
    exact ⟨⟨member.1, rfl⟩, h member hmember _⟩
  obtain ⟨texts, htexts⟩ := Json.exists_printMembers (fun entry hentry => (hentries entry hentry).1)
    fun entry hentry => (hentries entry hentry).2
  exact ⟨_, Json.printChars_map_eq_ok_iff.mpr ⟨texts, htexts, rfl⟩⟩

theorem exists_print_verdicts {packages : List JudgedPackage}
    (h : ∀ package ∈ packages, Numeral.IsShort package.records.length) (good : Bool) :
    ∃ text, Json.print .indented (.object [("success", .bool good),
      ("packages", .object (packages.map fun package => (package.digest, package.toValue)))]) =
        .ok text := by
  have hmembers : ∀ member ∈ [(LooseText.whole "success", Value.bool good),
      (.whole "packages", .object (packages.map fun package => (package.digest, package.toValue)))],
      ∀ depth, ∃ cs, Json.printChars .indented depth member.2 = .ok cs := by
    intro member hmember
    simp only [List.mem_cons, List.not_mem_nil, or_false] at hmember
    rcases hmember with rfl | rfl
    · exact (Json.IsDocument.bool good).exists_printChars .indented
    · refine exists_printChars_object fun member hmember => ?_
      obtain ⟨package, hpackage, rfl⟩ := List.mem_map.mp hmember
      exact (isDocument_toValue (h package hpackage)).exists_printChars .indented
  obtain ⟨cs, hprint⟩ := exists_printChars_object hmembers 0
  rw [Json.print, hprint]
  exact ⟨_, rfl⟩

theorem map_numbered {α β γ : Type} (start : Nat) (items : List α) (f : α → β) (g : Nat × β → γ) :
    (numbered start (items.map f)).map g =
      items.mapIdx fun index item => g (start + index, f item) := by
  induction items generalizing start with
  | nil => rfl
  | cons item items ih =>
      rw [List.map_cons, numbered, List.map_cons, ih, List.mapIdx_cons]
      simp only [Nat.add_zero, Nat.add_assoc, Nat.add_comm 1]

/-- What is reported of packages: whether all of their records are valid, and for each package an
item for each record, with its place, its key id and its verdict. -/
def verdictReport (suite : SignatureSuite) (source : KeySource)
    (packages : List (LooseText × List LogRecord)) : Value :=
  .object [
    ("success", .bool (packages.all fun package =>
      package.2.all fun record => verdict suite source record.toItem)),
    ("packages", .object (packages.map fun package =>
      (package.1, .list (package.2.mapIdx fun index record =>
        .object [("index", .int index), ("keyId", .str record.keyId),
          ("valid", .bool (verdict suite source record.toItem))]))))]

theorem toValue_of (suite : SignatureSuite) (source : KeySource)
    (package : LooseText × List LogRecord) :
    (JudgedPackage.of suite source package).toValue =
      .list (package.2.mapIdx fun index record =>
        .object [("index", .int index), ("keyId", .str record.keyId),
          ("valid", .bool (verdict suite source record.toItem))]) := by
  rw [JudgedPackage.toValue, JudgedPackage.of, map_numbered]
  simp only [Nat.zero_add]

theorem beq_invalid_of (suite : SignatureSuite) (source : KeySource)
    (package : LooseText × List LogRecord) :
    ((JudgedPackage.of suite source package).invalid == 0) =
      package.2.all fun record => verdict suite source record.toItem := by
  rw [Bool.eq_iff_iff, beq_iff_eq, JudgedPackage.invalid_of_eq_zero_iff, List.all_eq_true]

theorem verdictReport_eq (suite : SignatureSuite) (source : KeySource)
    (packages : List (LooseText × List LogRecord)) :
    verdictReport suite source packages =
      .object [
        ("success", .bool ((packages.map (JudgedPackage.of suite source)).all fun package =>
          package.invalid == 0)),
        ("packages", .object ((packages.map (JudgedPackage.of suite source)).map fun package =>
          (package.digest, package.toValue)))] := by
  simp only [verdictReport, List.all_map, List.map_map, Function.comp_def, beq_invalid_of,
    toValue_of]
  rfl

end Report

/-- Where all that is looked at is in order, the run tells whether every record is valid, and
reports the verdicts, unless the console refuses to show them. -/
theorem comes_validateRecords_judged (console : Console) (state : State) {settings : Settings}
    {options : ValidateOptions} {document : Value} {selected : List (Value × List LogRecord)}
    (hstored : LogResponse.Stores state.files options.logs document)
    (hselected : selectPackages document (nonempty? options.package) = .ok selected)
    (hregistry : RegistryFile.load suite state.files
      ((nonempty? options.registry).getD settings.registryPath) = .ok registry)
    (hworkers : ∀ n ∈ options.workers, 1 ≤ n) (hengines : settings.SuitsEngines)
    (hshort : ∀ package ∈ selected.filterMap named?, Numeral.IsShort package.2.length) :
    let packages := selected.filterMap named?
    let valid := packages.all fun package =>
      package.2.all fun record => verdict suite registry.source record.toItem
    Comes (validateRecords suite console settings options) state (fun _ _ => False)
      fun ending state' =>
        (ending = .exit (if valid then 0 else exitInvalid) ∨
          options.json = false ∧ ∃ fault, ending = .broken (.console fault)) ∧
        (options.json = true → ∃ text,
          Json.print .indented (verdictReport suite registry.source packages) = .ok text ∧
          state'.output = state.output ++ text ++ "\n") := by
  intro packages valid
  obtain ⟨text, htext, hload⟩ := stores_iff.mp hstored
  obtain ⟨engine, hengine, -⟩ := hengines options.workers hworkers
  rw [validateRecords]
  refine comes_bind (comes_get ?_)
  rw [htext]
  dsimp only
  rw [LogResponse.loadDocument_str_eq_ok_iff.mpr hload]
  dsimp only
  rw [hselected]
  dsimp only
  refine comes_bind ((comes_loadRegistry hregistry).mono ?_ fun _ _ h => h)
  rintro registry loaded ⟨rfl, hloaded⟩
  have hfew : ¬ Option.any (fun n => decide (n < 1)) options.workers = true := by
    cases hoption : options.workers with
    | none => simp
    | some n => simpa [hoption] using hworkers
  rw [if_neg hfew, hengine]
  dsimp only
  refine comes_bind (comes_judgePackages fun judged hjudged => ?_)
  have houtput : judged.output = state.output := congrArg Prod.snd (hjudged.trans hloaded)
  have hall : ((packages.map (JudgedPackage.of suite registry.source)).all fun package =>
      package.invalid == 0) = valid := by
    simp only [List.all_map, Function.comp_def, beq_invalid_of]
    rfl
  split
  · rename_i hjson
    have hlengths : ∀ package ∈ packages.map (JudgedPackage.of suite registry.source),
        Numeral.IsShort package.records.length := by
      intro package hpackage
      obtain ⟨package, hmem, rfl⟩ := List.mem_map.mp hpackage
      simpa [JudgedPackage.of] using hshort package hmem
    obtain ⟨text, hprint⟩ := exists_print_verdicts hlengths valid
    rw [← hall] at hprint
    refine comes_bind (comes_emitDocument hprint (comes_finish ⟨.inl ?_, fun _ => ⟨text, ?_, ?_⟩⟩))
    · rw [hall]
    · rw [verdictReport_eq]
      exact hprint
    · rw [State.printed_output, houtput, String.append_assoc]
  · rename_i hjson
    rw [hall]
    refine comes_bind (comes_present (fun _ _ => ?_) fun fault _ => ?_)
    · refine comes_bind (comes_present (fun _ _ => comes_finish ⟨.inl rfl, ?_⟩) fun fault _ => ?_)
      · exact fun h => absurd h hjson
      · exact ⟨.inr ⟨Bool.not_eq_true _ ▸ hjson, fault, rfl⟩, fun h => absurd h hjson⟩
    · exact ⟨.inr ⟨Bool.not_eq_true _ ▸ hjson, fault, rfl⟩, fun h => absurd h hjson⟩

end Run

end TransparencyLog.Command
