import TransparencyLog.Proofs.Decimal.Spelling
import TransparencyLog.Proofs.Outcome
import TransparencyLog.Proofs.Record.Batch
import TransparencyLog.Settings

namespace TransparencyLog.Settings

variable {environment : Environment} {settings : Settings} {setting : NumberSetting}
  {fault : Fault} {value : Int}

section Numbers

/-- A text of white space alone, the separator controls included; a variable with such a text counts
as unset. -/
def IsBlank (text : String) : Prop :=
  ∀ c ∈ text.toList, Text.isSpace c = true

/-- The number that an environment gives a setting: the integer that its variable spells, which is
not too small, or its own number where the variable is unset or blank. -/
inductive NumberSetting.Gives (setting : NumberSetting) (environment : Environment) : Int → Prop
  | unset (h : environment.get? setting.name = none) : setting.Gives environment setting.fallback
  | blank {text : String} (h : environment.get? setting.name = some text) (hblank : IsBlank text) :
      setting.Gives environment setting.fallback
  | written {text : String} {value : Int} (h : environment.get? setting.name = some text)
      (hblank : ¬ IsBlank text) (hspells : Numeral.Spells text value)
      (hleast : setting.least ≤ value) : setting.Gives environment value

/-- How an environment is refused for a setting: its variable is not blank, and it spells no integer
or one that is too small. One of more than 4300 digits is not read, and so counts as none. -/
inductive NumberSetting.Refuses (setting : NumberSetting) (environment : Environment) : Fault → Prop
  | notNumber {text : String} (h : environment.get? setting.name = some text)
      (hblank : ¬ IsBlank text) (hspells : ∀ value, ¬ Numeral.Spells text value) :
      setting.Refuses environment (.notNumber setting.name text)
  | tooSmall {text : String} {value : Int} (h : environment.get? setting.name = some text)
      (hblank : ¬ IsBlank text) (hspells : Numeral.Spells text value)
      (hleast : value < setting.least) :
      setting.Refuses environment (.tooSmall setting.name setting.least value)

theorem all_isSpace_iff {text : String} : text.toList.all Text.isSpace = true ↔ IsBlank text :=
  List.all_eq_true

theorem NumberSetting.gives_or_refuses (setting : NumberSetting) (environment : Environment) :
    (∃ value, setting.Gives environment value) ∨ ∃ fault, setting.Refuses environment fault := by
  cases h : environment.get? setting.name with
  | none => exact .inl ⟨_, .unset h⟩
  | some text =>
      by_cases hblank : IsBlank text
      · exact .inl ⟨_, .blank h hblank⟩
      · by_cases hspells : ∃ value, Numeral.Spells text value
        · obtain ⟨value, hspells⟩ := hspells
          by_cases hleast : value < setting.least
          · exact .inr ⟨_, .tooSmall h hblank hspells hleast⟩
          · exact .inl ⟨_, .written h hblank hspells (Int.not_lt.mp hleast)⟩
        · exact .inr ⟨_, .notNumber h hblank fun value hvalue => hspells ⟨value, hvalue⟩⟩

theorem NumberSetting.read_of_gives (h : setting.Gives environment value) :
    setting.read environment = .ok value := by
  rw [read]
  cases h with
  | unset h => rw [h]
  | blank h hblank =>
      rw [h]
      exact if_pos (all_isSpace_iff.mpr hblank)
  | written h hblank hspells hleast =>
      rw [h]
      dsimp only
      rw [if_neg (mt all_isSpace_iff.mp hblank), Numeral.parse?_eq_some_iff.mpr hspells]
      exact if_neg (Int.not_lt.mpr hleast)

theorem NumberSetting.read_of_refuses (h : setting.Refuses environment fault) :
    setting.read environment = .error fault := by
  rw [read]
  cases h with
  | @notNumber text h hblank hspells =>
      have hnone : Numeral.parse? text = none := by
        refine Option.eq_none_iff_forall_ne_some.mpr fun value hvalue => ?_
        exact hspells value (Numeral.parse?_eq_some_iff.mp hvalue)
      rw [h]
      dsimp only
      rw [if_neg (mt all_isSpace_iff.mp hblank), hnone]
  | tooSmall h hblank hspells hleast =>
      rw [h]
      dsimp only
      rw [if_neg (mt all_isSpace_iff.mp hblank), Numeral.parse?_eq_some_iff.mpr hspells]
      exact if_pos hleast

theorem NumberSetting.read_eq_ok_iff :
    setting.read environment = .ok value ↔ setting.Gives environment value := by
  refine ⟨fun h => ?_, read_of_gives⟩
  rcases setting.gives_or_refuses environment with ⟨given, hgives⟩ | ⟨fault, hrefuses⟩
  · rw [read_of_gives hgives] at h
    rwa [← Except.ok.inj h]
  · rw [read_of_refuses hrefuses] at h
    cases h

theorem NumberSetting.Gives.not_refuses (h : setting.Gives environment value) (fault : Fault) :
    ¬ setting.Refuses environment fault := by
  intro hrefuses
  have hread := NumberSetting.read_of_refuses hrefuses
  rw [NumberSetting.read_of_gives h] at hread
  cases hread

theorem NumberSetting.Gives.least_le (hfallback : setting.least ≤ setting.fallback)
    (h : setting.Gives environment value) : setting.least ≤ value := by
  cases h with
  | unset => exact hfallback
  | blank => exact hfallback
  | written _ _ _ hleast => exact hleast

/-- A fault is put into words: the numbers in it are not too long to be written. -/
def Fault.IsShort : Fault → Prop
  | .tooSmall _ least value => Numeral.IsShort least.natAbs ∧ Numeral.IsShort value.natAbs
  | _ => True

theorem NumberSetting.Refuses.isShort (hleast : Numeral.IsShort setting.least.natAbs)
    (h : setting.Refuses environment fault) : fault.IsShort := by
  cases h with
  | notNumber => trivial
  | tooSmall _ _ hspells _ => exact ⟨hleast, hspells.isShort⟩

theorem NumberSetting.Refuses.name_prefix (h : setting.Refuses environment fault) :
    setting.name.toList <+: fault.message.toList := by
  cases h with
  | notNumber =>
      simp only [Fault.message, String.toList_append, List.append_assoc]
      exact List.prefix_append _ _
  | tooSmall =>
      simp only [Fault.message, String.toList_append, List.append_assoc]
      exact List.prefix_append _ _

end Numbers

section Engines

/-- Engines can be made with the settings for every number of workers that may be asked for. They
have that number, or else the size of the pool, and the threshold of the settings. -/
def SuitsEngines (settings : Settings) : Prop :=
  ∀ workers : Option Int, (∀ n ∈ workers, 1 ≤ n) → ∃ engine,
    Engine.ofNumbers (workers <|> settings.poolSize) settings.parallelThreshold = .ok engine ∧
      engine.workers.map Int.ofNat = (workers <|> settings.poolSize) ∧
      (engine.threshold : Int) = settings.parallelThreshold

theorem one_le_of_mem_poolSize (h : 0 ≤ settings.maxWorkers) : ∀ n ∈ settings.poolSize, 1 ≤ n := by
  intro n hn
  rw [poolSize] at hn
  split at hn
  · cases hn
  · rename_i hzero
    obtain rfl := Option.some.inj hn
    omega

theorem suitsEngines_of_le (hworkers : 0 ≤ settings.maxWorkers)
    (hthreshold : 1 ≤ settings.parallelThreshold) : settings.SuitsEngines := by
  intro workers hasked
  have hnumbers : ∀ n ∈ workers <|> settings.poolSize, 1 ≤ n := by
    cases workers with
    | none => simpa using one_le_of_mem_poolSize hworkers
    | some n => simpa using hasked
  obtain ⟨engine, hengine⟩ := Engine.exists_ofNumbers hnumbers hthreshold
  exact ⟨engine, hengine, Engine.numbers_of_ofNumbers hengine⟩

end Engines

section Environments

/-- The home directory can be told: there is one, and it does not stand for another one. -/
def HasHome (environment : Environment) : Prop :=
  ∃ home, environment.home? = some home ∧ home.toList.head? ≠ some '~'

/-- The path of the registry can be told: a variable names it, or the home directory can be told. -/
def HasRegistryPath (environment : Environment) : Prop :=
  (∃ path, environment.get? "LOGTRUST_REGISTRY" = some path ∧ path ≠ "") ∨ HasHome environment

theorem homePath_eq_error_iff {path : String} :
    homePath environment path = .error fault ↔ fault = .noHome ∧ ¬ HasHome environment := by
  rw [homePath, HasHome]
  cases hhome : environment.home? with
  | none => simp [eq_comm]
  | some home =>
      dsimp only
      split
      · rename_i htilde
        simp [htilde, eq_comm]
      · rename_i htilde
        simp [htilde]

theorem registryPathOf_eq_error_iff :
    registryPathOf environment = .error fault ↔
      fault = .noHome ∧ ¬ HasRegistryPath environment := by
  rw [registryPathOf, HasRegistryPath]
  cases h : environment.get? "LOGTRUST_REGISTRY" with
  | none =>
      rw [defaultRegistryPath, homePath_eq_error_iff]
      simp
  | some path =>
      dsimp only
      split
      · rename_i hempty
        obtain rfl : path = "" := String.isEmpty_iff.mp hempty
        rw [defaultRegistryPath, homePath_eq_error_iff]
        simp
      · rename_i hpath
        have hne : path ≠ "" := fun heq => hpath (String.isEmpty_iff.mpr heq)
        simp [hne]

/-- The numbers among the settings, in the order in which they are read. -/
def numberSettings : List NumberSetting :=
  [workersSetting, thresholdSetting, portSetting]

/-- The first setting that an environment is refused for. -/
def RefusesFirst (environment : Environment) (setting : NumberSetting) (fault : Fault) : Prop :=
  ∃ before after, numberSettings = before ++ setting :: after ∧
    (∀ other ∈ before, ∀ fault, ¬ other.Refuses environment fault) ∧
    setting.Refuses environment fault

/-- The numbers of the settings are those that the environment gives. -/
structure IsGivenBy (settings : Settings) (environment : Environment) : Prop where
  workers : workersSetting.Gives environment settings.maxWorkers
  threshold : thresholdSetting.Gives environment settings.parallelThreshold
  port : portSetting.Gives environment settings.metricsPort

theorem isGivenBy_of_ofEnvironment (h : ofEnvironment environment = .ok settings) :
    settings.IsGivenBy environment := by
  simp only [ofEnvironment, bind_eq_ok_iff, NumberSetting.read_eq_ok_iff] at h
  obtain ⟨registryPath, -, maxWorkers, hworkers, threshold, hthreshold, port, hport, h⟩ := h
  obtain rfl := Except.ok.inj h
  exact ⟨hworkers, hthreshold, hport⟩

theorem IsGivenBy.suitsEngines (h : settings.IsGivenBy environment) : settings.SuitsEngines :=
  suitsEngines_of_le (h.workers.least_le (by decide)) (h.threshold.least_le (by decide))

theorem ofEnvironment_of_registryPath {path : String}
    (hpath : registryPathOf environment = .ok path) :
    (∃ setting fault, RefusesFirst environment setting fault ∧
        ofEnvironment environment = .error fault) ∨
      ∃ settings, ofEnvironment environment = .ok settings := by
  rw [ofEnvironment, hpath, ok_bind]
  rcases workersSetting.gives_or_refuses environment with ⟨_, hworkers⟩ | ⟨_, hrefused⟩
  case inr =>
    rw [NumberSetting.read_of_refuses hrefused]
    exact .inl ⟨_, _, ⟨[], _, rfl, by simp, hrefused⟩, rfl⟩
  rw [NumberSetting.read_of_gives hworkers, ok_bind]
  rcases thresholdSetting.gives_or_refuses environment with ⟨_, hthreshold⟩ | ⟨_, hrefused⟩
  case inr =>
    rw [NumberSetting.read_of_refuses hrefused]
    refine .inl ⟨_, _, ⟨[workersSetting], _, rfl, ?_, hrefused⟩, rfl⟩
    simpa using hworkers.not_refuses
  rw [NumberSetting.read_of_gives hthreshold, ok_bind]
  rcases portSetting.gives_or_refuses environment with ⟨_, hport⟩ | ⟨_, hrefused⟩
  case inr =>
    rw [NumberSetting.read_of_refuses hrefused]
    refine .inl ⟨_, _, ⟨[workersSetting, thresholdSetting], _, rfl, ?_, hrefused⟩, rfl⟩
    simpa using ⟨hworkers.not_refuses, hthreshold.not_refuses⟩
  rw [NumberSetting.read_of_gives hport]
  exact .inr ⟨_, rfl⟩

theorem RefusesFirst.refuses (h : RefusesFirst environment setting fault) :
    setting.Refuses environment fault := by
  obtain ⟨-, -, -, -, hrefused⟩ := h
  exact hrefused

theorem RefusesFirst.isShort (h : RefusesFirst environment setting fault) : fault.IsShort := by
  have hleast : ∀ other ∈ numberSettings, Numeral.IsShort other.least.natAbs := by
    simp only [numberSettings, List.forall_mem_cons]
    exact ⟨Numeral.isShort_of_lt (by decide), Numeral.isShort_of_lt (by decide),
      Numeral.isShort_of_lt (by decide), by simp⟩
  have hrefused := h.refuses
  obtain ⟨before, after, hsettings, -, -⟩ := h
  exact hrefused.isShort (hleast setting (by simp [hsettings]))

/-- An environment has no settings where no home directory tells the path of the registry, or where
one of the numbers is refused. What is said of the first of these begins with the name of its
variable. Otherwise there are settings, which have the numbers that the environment gives, and an
engine can be made with them for every number of workers that may be asked for. -/
theorem ofEnvironment_outcome (environment : Environment) :
    (¬ HasRegistryPath environment ∧ ofEnvironment environment = .error .noHome) ∨
      HasRegistryPath environment ∧
        ((∃ setting fault, RefusesFirst environment setting fault ∧
            ofEnvironment environment = .error fault ∧
            setting.name.toList <+: fault.message.toList ∧ fault.IsShort) ∨
          ∃ settings, ofEnvironment environment = .ok settings ∧
            settings.IsGivenBy environment ∧ settings.SuitsEngines) := by
  cases hpath : registryPathOf environment with
  | error fault =>
      obtain ⟨rfl, hnone⟩ := registryPathOf_eq_error_iff.mp hpath
      refine .inl ⟨hnone, ?_⟩
      rw [ofEnvironment, hpath]
      rfl
  | ok path =>
      have hhas : HasRegistryPath environment := by
        by_contra hnone
        rw [registryPathOf_eq_error_iff.mpr ⟨rfl, hnone⟩] at hpath
        cases hpath
      refine .inr ⟨hhas, ?_⟩
      rcases ofEnvironment_of_registryPath hpath with
        ⟨setting, fault, hfirst, herror⟩ | ⟨settings, hsettings⟩
      · exact .inl ⟨setting, fault, hfirst, herror, hfirst.refuses.name_prefix, hfirst.isShort⟩
      · have hgiven := isGivenBy_of_ofEnvironment hsettings
        exact .inr ⟨settings, hsettings, hgiven, hgiven.suitsEngines⟩

section Example

/-- A blank variable, and one that spells a number in digits of two scripts. -/
def oddEnvironment : Environment where
  bindings :=
    [("HOME", "/root"), ("LOGTRUST_MAX_WORKERS", "\t\x1c"),
      ("LOGTRUST_PARALLEL_THRESHOLD", " +٦_4\n")]
  accountHome := none

/-- One variable that is in order and two that are refused. -/
def twiceRefusedEnvironment : Environment where
  bindings :=
    [("METRICS_PORT", "http"), ("LOGTRUST_PARALLEL_THRESHOLD", "-0"),
      ("LOGTRUST_MAX_WORKERS", "0")]
  accountHome := some "/root"

/-- Three workers are asked for where the pool is left open, and where two variables are refused the
one that is read first is reported. -/
theorem outcome_oddEnvironments :
    (∃ settings engine, ofEnvironment oddEnvironment = .ok settings ∧ settings.poolSize = none ∧
      Engine.ofNumbers (some 3 <|> settings.poolSize) settings.parallelThreshold = .ok engine ∧
      engine.workers.map Int.ofNat = some 3 ∧ engine.threshold = 64) ∧
    ∃ setting, RefusesFirst twiceRefusedEnvironment setting
        (.tooSmall "LOGTRUST_PARALLEL_THRESHOLD" 1 0) ∧
      ofEnvironment twiceRefusedEnvironment =
        .error (.tooSmall "LOGTRUST_PARALLEL_THRESHOLD" 1 0) := by
  constructor
  · have hgiven : (ofEnvironment oddEnvironment).map
        (fun settings => (settings.poolSize, settings.parallelThreshold)) = .ok (none, 64) := by
      decide +kernel
    rcases ofEnvironment_outcome oddEnvironment with
      ⟨-, hnone⟩ | ⟨-, ⟨setting, fault, -, hrefused, -⟩ | ⟨settings, hsettings, -, hsuits⟩⟩
    · rw [hnone] at hgiven
      cases hgiven
    · rw [hrefused] at hgiven
      cases hgiven
    · rw [hsettings] at hgiven
      obtain ⟨hpool, hthreshold⟩ := Prod.mk.inj (Except.ok.inj hgiven)
      obtain ⟨engine, hengine, hworkers, hcount⟩ := hsuits (some 3) (by simp)
      rw [hthreshold] at hcount
      exact ⟨settings, engine, hsettings, hpool, hengine, hworkers, by omega⟩
  · have hresult : ofEnvironment twiceRefusedEnvironment =
        .error (.tooSmall "LOGTRUST_PARALLEL_THRESHOLD" 1 0) := by
      decide +kernel
    rcases ofEnvironment_outcome twiceRefusedEnvironment with
      ⟨-, hnone⟩ | ⟨-, ⟨setting, fault, hfirst, hrefused, -⟩ | ⟨settings, hsettings, -⟩⟩
    · rw [hresult] at hnone
      cases hnone
    · rw [hresult] at hrefused
      obtain rfl := Except.error.inj hrefused
      exact ⟨setting, hfirst, hresult⟩
    · rw [hresult] at hsettings
      cases hsettings

/-- A home that stands for another one, and a number of workers that is none. -/
def tildeEnvironment : Environment where
  bindings := [("HOME", "~"), ("LOGTRUST_MAX_WORKERS", "many")]
  accountHome := some "/root"

/-- The path of the registry is looked for before the numbers are read, and what is said of it names
no variable. -/
theorem not_named_of_tildeHome :
    (∃ fault, RefusesFirst tildeEnvironment workersSetting fault) ∧
      (∀ settings, ofEnvironment tildeEnvironment ≠ .ok settings) ∧
      ofEnvironment tildeEnvironment = .error .noHome ∧
      ∀ setting ∈ numberSettings, ¬ setting.name.toList <+: Fault.noHome.message.toList := by
  have hresult : ofEnvironment tildeEnvironment = .error .noHome := by decide +kernel
  have hread : workersSetting.read tildeEnvironment =
      .error (.notNumber "LOGTRUST_MAX_WORKERS" "many") := by
    decide +kernel
  refine ⟨?_, fun settings hsettings => ?_, hresult, by decide +kernel⟩
  · rcases workersSetting.gives_or_refuses tildeEnvironment with ⟨_, hgives⟩ | ⟨fault, hrefuses⟩
    · rw [NumberSetting.read_of_gives hgives] at hread
      cases hread
    · exact ⟨fault, [], _, rfl, by simp, hrefuses⟩
  · rw [hresult] at hsettings
    cases hsettings

end Example

end Environments

end TransparencyLog.Settings
