import Mathlib.Data.List.Forall2
import Mathlib.Data.List.Nodup
import Telemetry.Proofs.Effects
import Telemetry.Setting.Layer

/-!
# Rules of settings

A rule says of one setting where it is looked for, what a text of its variable and a value of its file come to,
what it is without either, and whether a blank variable takes it away or counts as if it were not there. What a
setting comes to by its rule is its `outcome`.

A program puts its settings together from outcomes and nothing else: the first failure in the order in which it
reads is its own, and without a failure it checks the settings that the outcomes are. So what it comes to is
known exactly, `Layers.ComesTo`, and its layers are told apart as they should be, `Layers.Gathers.decide`. There
are three ways to combine the layers of a setting: `parsed`, for
numbers and flags, `shown`, where a blank text counts as none in either layer, and `taken`, where it is the
first text that counts, even if it is blank.
-/

namespace Telemetry

/-- The environment without a variable. -/
def Environment.unset (environment : Environment) (variableName : String) : Environment := fun name =>
  if name = variableName then none else environment name

/-- The variable is set, to a blank text. -/
def Environment.IsBlankAt (environment : Environment) (variableName : String) : Prop :=
  ∃ text, environment variableName = some text ∧ Text.isAllBlank text = true

section Unset

variable {environment : Environment} {variableName name : String}

theorem Environment.unset_self : environment.unset variableName variableName = none :=
  if_pos rfl

theorem Environment.unset_of_ne (differ : name ≠ variableName) :
    environment.unset variableName name = environment name :=
  if_neg differ

theorem Setting.ofVariable_unset {Datum : Type} {read? : String → Option Datum}
    (differ : name ≠ variableName) :
    ofVariable read? (environment.unset variableName) name = ofVariable read? environment name := by
  rw [ofVariable, ofVariable, Environment.unset_of_ne differ]

theorem Setting.logLevel_unset {fromFile : Option String} (differ : "LOG_LEVEL" ≠ variableName) :
    logLevel (environment.unset variableName) fromFile = logLevel environment fromFile := by
  rw [logLevel, logLevel, Environment.unset_of_ne differ]

end Unset

theorem Setting.exists_of_ofVariable_eq_some {Datum : Type} {read? : String → Option Datum}
    {environment : Environment} {name : String} {datum : Datum}
    (said : ofVariable read? environment name = .ok (some datum)) : ∃ text, read? text = some datum := by
  rw [ofVariable] at said
  split at said
  · cases said
  · split at said
    · next isRead =>
      cases said
      exact ⟨_, isRead⟩
    · cases said

/-- One setting of a program: where it is looked for, and what comes of what is found there. -/
structure SettingRule (File Settings : Type) where
  variableName : String
  /-- The key of the file. -/
  key : String
  /-- What the file may hold. -/
  Datum : Type
  /-- What the setting may be. -/
  Value : Type
  /-- Reads what the key holds. -/
  read? : Json → Option Datum
  /-- What a file holds. -/
  datum : File → Option Datum
  /-- The setting among the others. -/
  value : Settings → Value
  /-- What a text of the variable comes to, if it is not blank. -/
  ofVariable : String → Except SettingError Value
  /-- What something in the file comes to. -/
  ofDatum : Datum → Except SettingError Value
  /-- The setting when nothing is said about it. -/
  standard : Value
  /-- The setting when the variable is blank, unless this counts as if it were not there. -/
  whenBlank : Option Value

namespace SettingRule

variable {File Settings : Type} {rule : SettingRule File Settings} {environment other : Environment}
  {file otherFile : File} {text : String}

/-- What a setting comes to when its variable has no say. -/
def ofFile (rule : SettingRule File Settings) (file : File) : Except SettingError rule.Value :=
  match rule.datum file with
  | none => .ok rule.standard
  | some datum => rule.ofDatum datum

/-- What a setting comes to. -/
def outcome (rule : SettingRule File Settings) (environment : Environment) (file : File) :
    Except SettingError rule.Value :=
  match environment rule.variableName with
  | none => rule.ofFile file
  | some text =>
    if Text.isAllBlank text then
      match rule.whenBlank with
      | none => rule.ofFile file
      | some value => .ok value
    else
      rule.ofVariable text

/-- The variable of a setting has no say: it is not set, or it is blank and that counts as much. -/
inductive IsLeftToFile (rule : SettingRule File Settings) (environment : Environment) : Prop
  | unset (isUnset : environment rule.variableName = none)
  | blank (text : String) (isSet : environment rule.variableName = some text)
      (isBlank : Text.isAllBlank text = true) (fallsBack : rule.whenBlank = none)

theorem outcome_of_isLeftToFile (isLeft : rule.IsLeftToFile environment) :
    rule.outcome environment file = rule.ofFile file := by
  cases isLeft with
  | unset isUnset => rw [outcome, isUnset]
  | blank text isSet isBlank fallsBack =>
    rw [outcome, isSet]
    dsimp only
    rw [if_pos isBlank, fallsBack]

theorem outcome_of_isBlank {value : rule.Value} (isSet : environment rule.variableName = some text)
    (isBlank : Text.isAllBlank text = true) (takes : rule.whenBlank = some value) :
    rule.outcome environment file = .ok value := by
  rw [outcome, isSet]
  dsimp only
  rw [if_pos isBlank, takes]

theorem outcome_of_text (isSet : environment rule.variableName = some text)
    (isText : Text.isAllBlank text = false) : rule.outcome environment file = rule.ofVariable text := by
  rw [outcome, isSet]
  dsimp only
  rw [if_neg (by simp [isText])]

/-- Where the variable has a say, it alone decides. -/
theorem outcome_eq_of_not_isLeftToFile (decides : ¬rule.IsLeftToFile environment) :
    rule.outcome environment file = rule.outcome environment otherFile := by
  cases isSet : environment rule.variableName with
  | none => exact absurd (.unset isSet) decides
  | some text =>
    cases isBlank : Text.isAllBlank text with
    | false => rw [outcome_of_text isSet isBlank, outcome_of_text isSet isBlank]
    | true =>
      cases takes : rule.whenBlank with
      | none => exact absurd (.blank text isSet isBlank takes) decides
      | some value => rw [outcome_of_isBlank isSet isBlank takes, outcome_of_isBlank isSet isBlank takes]

theorem outcome_congr_file
    (same : rule.IsLeftToFile environment → rule.datum file = rule.datum otherFile) :
    rule.outcome environment file = rule.outcome environment otherFile := by
  by_cases isLeft : rule.IsLeftToFile environment
  · rw [outcome_of_isLeftToFile isLeft, outcome_of_isLeftToFile isLeft, ofFile, ofFile, same isLeft]
  · exact outcome_eq_of_not_isLeftToFile isLeft

theorem outcome_congr (sameText : environment rule.variableName = other rule.variableName)
    (sameDatum : rule.datum file = rule.datum otherFile) :
    rule.outcome environment file = rule.outcome other otherFile := by
  rw [outcome, outcome, ofFile, ofFile, sameText, sameDatum]

/-- Why a setting comes to nothing, if it does. -/
def failure? (environment : Environment) (file : File) (rule : SettingRule File Settings) :
    Option SettingError :=
  match rule.outcome environment file with
  | .ok _ => none
  | .error cause => some cause

theorem failure?_eq_none_iff :
    rule.failure? environment file = none ↔ ∃ value, rule.outcome environment file = .ok value := by
  unfold failure?
  cases rule.outcome environment file <;> simp

/-- A failure ends the reading of settings; the first one does. -/
theorem bind_outcome_eq_error {order : List (SettingRule File Settings)} {Result : Type} {cause : SettingError}
    {next : rule.Value → Except SettingError Result}
    (fails : (rule :: order).findSome? (failure? environment file) = some cause)
    (later : ∀ value, order.findSome? (failure? environment file) = some cause → next value = .error cause) :
    (rule.outcome environment file >>= next) = .error cause := by
  rw [List.findSome?_cons] at fails
  unfold failure? at fails
  cases came : rule.outcome environment file with
  | error first =>
    rw [came] at fails
    cases fails
    rfl
  | ok value =>
    rw [came] at fails
    exact later value fails

end SettingRule

/-! ## Layers of a program -/

/-- A program that is told its settings in layers. -/
structure Layers (File Settings : Type) where
  /-- One rule for each setting, in the order of the keys of a file. -/
  rules : List (SettingRule File Settings)
  /-- A file that says nothing. -/
  empty : File
  ofJson? : Json → Option File
  /-- The rules in the order in which the program reads its settings. -/
  order : List (SettingRule File Settings)
  /-- Checks settings that have been put together. -/
  validate : Settings → Except SettingError Unit
  ofEnvironment : Disk → Environment → Except SettingError Settings

namespace Layers

variable {File Settings : Type}

/-- The file of settings that the environment names. -/
def file (layers : Layers File Settings) (disk : Disk) (environment : Environment) :
    Except SettingError File :=
  Setting.file layers.empty layers.ofJson? disk environment

/-- Why the settings come to nothing by their rules, if they do. -/
def failure? (layers : Layers File Settings) (environment : Environment) (file : File) :
    Option SettingError :=
  layers.order.findSome? (SettingRule.failure? environment file)

/-- What the settings come to: the failure to read the file, or the first one of a rule, or that of the check, or
the settings whose values are the outcomes of all rules. -/
inductive ComesTo (layers : Layers File Settings) (disk : Disk) (environment : Environment) :
    Except SettingError Settings → Prop
  | unread {cause : SettingError} (unread : layers.file disk environment = .error cause) :
      ComesTo layers disk environment (.error cause)
  | failed {file : File} {cause : SettingError} (read : layers.file disk environment = .ok file)
      (fails : layers.failure? environment file = some cause) : ComesTo layers disk environment (.error cause)
  | refused {file : File} {settings : Settings} {cause : SettingError}
      (read : layers.file disk environment = .ok file)
      (outcomes : ∀ rule ∈ layers.rules, rule.outcome environment file = .ok (rule.value settings))
      (refuses : layers.validate settings = .error cause) : ComesTo layers disk environment (.error cause)
  | accepted {file : File} {settings : Settings} (read : layers.file disk environment = .ok file)
      (outcomes : ∀ rule ∈ layers.rules, rule.outcome environment file = .ok (rule.value settings))
      (accepts : layers.validate settings = .ok ()) : ComesTo layers disk environment (.ok settings)

/-- The variables that take their settings away when they are blank. -/
def takenByBlank (layers : Layers File Settings) : List String :=
  (layers.rules.filter fun rule => rule.whenBlank.isSome).map SettingRule.variableName

/-- The rules are about all settings and everything that a file may say, each about a variable and a key of its
own. -/
structure Cover (layers : Layers File Settings) : Prop where
  settings_ext : ∀ first second : Settings,
    (∀ rule ∈ layers.rules, rule.value first = rule.value second) → first = second
  file_ext : ∀ first second : File,
    (∀ rule ∈ layers.rules, rule.datum first = rule.datum second) → first = second
  nodup_variableName : (layers.rules.map SettingRule.variableName).Nodup
  variableName_ne : ∀ rule ∈ layers.rules, rule.variableName ≠ "CONFIG"
  mem_order_iff : ∀ {rule}, rule ∈ layers.order ↔ rule ∈ layers.rules
  nodup_key : (layers.rules.map SettingRule.key).Nodup
  datum_eq : ∀ {json file}, layers.ofJson? json = some file →
    ∃ held, Json.fields? (layers.rules.map SettingRule.key) json = some held ∧
      List.Forall₂ (fun rule value => Json.optional? rule.read? value = some (rule.datum file))
        layers.rules held

/-- How the layers of settings decide. Each of these holds of every environment and of every file that can be
read; those about a result hold of failures too. -/
structure Decide (layers : Layers File Settings) : Prop extends layers.Cover where
  /-- The rules and the check alone say what the settings come to. -/
  result_iff : ∀ {disk environment result},
    layers.ofEnvironment disk environment = result ↔ layers.ComesTo disk environment result
  /-- What a file says about a setting does not matter to the result where the variable has a say. -/
  result_congr : ∀ {environment disk otherDisk file otherFile},
    layers.file disk environment = .ok file → layers.file otherDisk environment = .ok otherFile →
      (∀ rule ∈ layers.rules, rule.IsLeftToFile environment → rule.datum file = rule.datum otherFile) →
        layers.ofEnvironment disk environment = layers.ofEnvironment otherDisk environment
  /-- A text that is not blank decides. -/
  value_of_text : ∀ {disk environment settings}, layers.ofEnvironment disk environment = .ok settings →
    ∀ rule ∈ layers.rules, ∀ text, environment rule.variableName = some text →
      Text.isAllBlank text = false → rule.ofVariable text = .ok (rule.value settings)
  /-- Without a variable, the file decides. -/
  value_of_datum : ∀ {disk environment file settings}, layers.file disk environment = .ok file →
    layers.ofEnvironment disk environment = .ok settings →
      ∀ rule ∈ layers.rules, environment rule.variableName = none →
        ∀ datum, rule.datum file = some datum → rule.ofDatum datum = .ok (rule.value settings)
  /-- Without either, the default decides. -/
  value_of_nothing : ∀ {disk environment file settings}, layers.file disk environment = .ok file →
    layers.ofEnvironment disk environment = .ok settings →
      ∀ rule ∈ layers.rules, environment rule.variableName = none → rule.datum file = none →
        rule.value settings = rule.standard
  /-- A blank variable that takes nothing away counts as if it were not there. -/
  result_unset : ∀ disk environment, ∀ rule ∈ layers.rules, ∀ text,
    environment rule.variableName = some text → Text.isAllBlank text = true → rule.whenBlank = none →
      layers.ofEnvironment disk environment =
        layers.ofEnvironment disk (environment.unset rule.variableName)
  /-- A blank variable may take the setting away, whatever the file says. -/
  value_of_blank : ∀ {disk environment settings}, layers.ofEnvironment disk environment = .ok settings →
    ∀ rule ∈ layers.rules, ∀ text value, environment rule.variableName = some text →
      Text.isAllBlank text = true → rule.whenBlank = some value → rule.value settings = value
  /-- No setting depends on the variable or the key of another one. -/
  value_congr : ∀ {disk otherDisk environment otherEnvironment file otherFile settings otherSettings},
    layers.file disk environment = .ok file → layers.file otherDisk otherEnvironment = .ok otherFile →
      layers.ofEnvironment disk environment = .ok settings →
        layers.ofEnvironment otherDisk otherEnvironment = .ok otherSettings →
          ∀ rule ∈ layers.rules, environment rule.variableName = otherEnvironment rule.variableName →
            rule.datum file = rule.datum otherFile → rule.value settings = rule.value otherSettings

/-- A setting that a blank variable takes away is what its rule says. -/
theorem Decide.value_of_isBlankAt {layers : Layers File Settings} (decides : layers.Decide) {disk : Disk}
    {environment : Environment} {settings : Settings}
    (accepted : layers.ofEnvironment disk environment = .ok settings) {rule : SettingRule File Settings}
    (listed : rule ∈ layers.rules) {value : rule.Value} (takes : rule.whenBlank = some value)
    (isBlank : environment.IsBlankAt rule.variableName) : rule.value settings = value := by
  obtain ⟨text, isSet, isAllBlank⟩ := isBlank
  exact decides.value_of_blank accepted rule listed text value isSet isAllBlank takes

/-- The settings are put together from the outcomes of the rules and nothing else. -/
structure Gathers (layers : Layers File Settings)
    (ofLayers : Environment → File → Except SettingError Settings) : Prop extends layers.Cover where
  ofEnvironment_eq : ∀ disk environment,
    layers.ofEnvironment disk environment = (layers.file disk environment).bind (ofLayers environment)
  fails : ∀ {environment file cause}, layers.failure? environment file = some cause →
    ofLayers environment file = .error cause
  settles : ∀ {environment file}, layers.failure? environment file = none →
    ∃ settings, (∀ rule ∈ layers.rules, rule.outcome environment file = .ok (rule.value settings)) ∧
      ofLayers environment file = (layers.validate settings).map fun _ => settings

variable {layers : Layers File Settings} {ofLayers : Environment → File → Except SettingError Settings}
  {disk : Disk} {environment other : Environment} {file otherFile : File} {settings otherSettings : Settings}
  {result : Except SettingError Settings}

theorem Cover.failure?_eq_none_iff (cover : layers.Cover) :
    layers.failure? environment file = none ↔
      ∀ rule ∈ layers.rules, ∃ value, rule.outcome environment file = .ok value := by
  simp only [failure?, List.findSome?_eq_none_iff, cover.mem_order_iff, SettingRule.failure?_eq_none_iff]

/-- The outcomes of the rules are those of no other settings. -/
theorem Cover.eq_of_outcomes (cover : layers.Cover)
    (outcomes : ∀ rule ∈ layers.rules, rule.outcome environment file = .ok (rule.value settings))
    (otherOutcomes : ∀ rule ∈ layers.rules, rule.outcome environment file = .ok (rule.value otherSettings)) :
    settings = otherSettings := by
  apply cover.settings_ext
  intro rule listed
  exact Except.ok.inj ((outcomes rule listed).symm.trans (otherOutcomes rule listed))

/-- What a file says has been read from a value of JSON. -/
theorem Cover.exists_read (cover : layers.Cover) (read : layers.file disk environment = .ok file)
    {rule : SettingRule File Settings} (listed : rule ∈ layers.rules)
    (unsaid : rule.datum layers.empty = none) {datum : rule.Datum} (said : rule.datum file = some datum) :
    ∃ json, rule.read? json = some datum := by
  rw [Layers.file, Setting.file] at read
  split at read
  · cases read
    cases unsaid.symm.trans said
  · split at read
    · cases read
    · split at read
      · next found =>
        cases read
        obtain ⟨json, _, ofJson⟩ := Option.bind_eq_some_iff.1 found
        obtain ⟨held, _, each⟩ := cover.datum_eq ofJson
        obtain ⟨place, rfl⟩ := List.get_of_mem listed
        have fieldRead := each.get place.isLt (each.length_eq ▸ place.isLt)
        exact Json.exists_of_optional?_eq_some (fieldRead.trans (congrArg some said))
      · cases read

theorem file_unset {variableName : String} (differ : variableName ≠ "CONFIG") :
    layers.file disk (environment.unset variableName) = layers.file disk environment := by
  simp only [Layers.file, Setting.file, Setting.filePath, Environment.unset_of_ne differ.symm]

namespace Gathers

theorem ofEnvironment_of_file (gathers : layers.Gathers ofLayers)
    (read : layers.file disk environment = .ok file) :
    layers.ofEnvironment disk environment = ofLayers environment file := by
  rw [gathers.ofEnvironment_eq, read]
  rfl

/-- Settings that are put together from the outcomes of the rules are checked, and no others are. -/
theorem ofLayers_of_outcomes (gathers : layers.Gathers ofLayers)
    (outcomes : ∀ rule ∈ layers.rules, rule.outcome environment file = .ok (rule.value settings)) :
    ofLayers environment file = (layers.validate settings).map fun _ => settings := by
  have noneFails : layers.failure? environment file = none :=
    gathers.failure?_eq_none_iff.2 fun rule listed => ⟨_, outcomes rule listed⟩
  obtain ⟨found, itsOutcomes, gathered⟩ := gathers.settles noneFails
  rwa [gathers.eq_of_outcomes outcomes itsOutcomes]

theorem congr (gathers : layers.Gathers ofLayers)
    (same : ∀ rule ∈ layers.rules, rule.outcome environment file = rule.outcome other otherFile) :
    ofLayers environment file = ofLayers other otherFile := by
  cases failure : layers.failure? environment file with
  | some cause =>
    have sameFailures : ∀ rule ∈ layers.order,
        rule.failure? other otherFile = rule.failure? environment file := by
      intro rule listed
      rw [SettingRule.failure?, SettingRule.failure?, same rule (gathers.mem_order_iff.1 listed)]
    have sameFailure : layers.failure? other otherFile = some cause := by
      rw [← failure, Layers.failure?, Layers.failure?, ← List.head?_filterMap, ← List.head?_filterMap,
        List.filterMap_congr sameFailures]
    rw [gathers.fails failure, gathers.fails sameFailure]
  | none =>
    obtain ⟨settings, outcomes, gathered⟩ := gathers.settles failure
    rw [gathered, gathers.ofLayers_of_outcomes fun rule listed =>
      (same rule listed).symm.trans (outcomes rule listed)]

theorem result_iff (gathers : layers.Gathers ofLayers) :
    layers.ofEnvironment disk environment = result ↔ layers.ComesTo disk environment result := by
  constructor
  · rintro rfl
    rw [gathers.ofEnvironment_eq]
    cases read : layers.file disk environment with
    | error cause => exact .unread read
    | ok file =>
      dsimp only [Except.bind]
      cases failure : layers.failure? environment file with
      | some cause =>
        rw [gathers.fails failure]
        exact .failed read failure
      | none =>
        obtain ⟨settings, outcomes, gathered⟩ := gathers.settles failure
        rw [gathered]
        cases checked : layers.validate settings with
        | ok _ => exact .accepted read outcomes checked
        | error cause => exact .refused read outcomes checked
  · rintro (unread | ⟨read, fails⟩ | ⟨read, outcomes, checked⟩ | ⟨read, outcomes, checked⟩)
    · rw [gathers.ofEnvironment_eq, unread]
      rfl
    · rw [gathers.ofEnvironment_of_file read, gathers.fails fails]
    all_goals
      rw [gathers.ofEnvironment_of_file read, gathers.ofLayers_of_outcomes outcomes, checked]
      rfl

/-- Settings come from some file, by the rules. -/
theorem exists_file (gathers : layers.Gathers ofLayers)
    (accepted : layers.ofEnvironment disk environment = .ok settings) :
    ∃ file, layers.file disk environment = .ok file ∧
      ∀ rule ∈ layers.rules, rule.outcome environment file = .ok (rule.value settings) := by
  cases gathers.result_iff.1 accepted with
  | accepted read outcomes => exact ⟨_, read, outcomes⟩

theorem outcome_of_file (gathers : layers.Gathers ofLayers)
    (read : layers.file disk environment = .ok file)
    (accepted : layers.ofEnvironment disk environment = .ok settings) :
    ∀ rule ∈ layers.rules, rule.outcome environment file = .ok (rule.value settings) := by
  obtain ⟨same, readAgain, outcomes⟩ := gathers.exists_file accepted
  cases read.symm.trans readAgain
  exact outcomes

/-- Only the outcome of a rule whose variable is taken away can change, and it does not where that variable has
no say. -/
theorem result_unset (gathers : layers.Gathers ofLayers) {rule : SettingRule File Settings}
    (listed : rule ∈ layers.rules) (isLeft : rule.IsLeftToFile environment) :
    layers.ofEnvironment disk environment =
      layers.ofEnvironment disk (environment.unset rule.variableName) := by
  have sameFile : layers.file disk (environment.unset rule.variableName) = layers.file disk environment :=
    file_unset (gathers.variableName_ne rule listed)
  rw [gathers.ofEnvironment_eq, gathers.ofEnvironment_eq, sameFile]
  congr 1
  funext file
  apply gathers.congr
  intro each eachListed
  by_cases same : each.variableName = rule.variableName
  · have isSame : each = rule :=
      List.inj_on_of_nodup_map gathers.nodup_variableName eachListed listed same
    rw [isSame, SettingRule.outcome_of_isLeftToFile isLeft,
      SettingRule.outcome_of_isLeftToFile (.unset Environment.unset_self)]
  · exact SettingRule.outcome_congr (Environment.unset_of_ne same).symm rfl

theorem decide (gathers : layers.Gathers ofLayers) : layers.Decide where
  toCover := gathers.toCover
  result_iff := gathers.result_iff
  result_congr := by
    intro environment disk otherDisk file otherFile read otherRead same
    rw [gathers.ofEnvironment_of_file read, gathers.ofEnvironment_of_file otherRead]
    exact gathers.congr fun rule listed => SettingRule.outcome_congr_file (same rule listed)
  value_of_text := by
    intro disk environment settings accepted rule listed text isSet isText
    obtain ⟨file, _, outcome⟩ := gathers.exists_file accepted
    rw [← SettingRule.outcome_of_text isSet isText, outcome rule listed]
  value_of_datum := by
    intro disk environment file settings read accepted rule listed isUnset datum isSaid
    have outcome := gathers.outcome_of_file read accepted rule listed
    rwa [SettingRule.outcome_of_isLeftToFile (.unset isUnset), SettingRule.ofFile, isSaid] at outcome
  value_of_nothing := by
    intro disk environment file settings read accepted rule listed isUnset isUnsaid
    have outcome := gathers.outcome_of_file read accepted rule listed
    rw [SettingRule.outcome_of_isLeftToFile (.unset isUnset), SettingRule.ofFile, isUnsaid] at outcome
    exact (Except.ok.inj outcome).symm
  result_unset := by
    intro disk environment rule listed text isSet isBlank fallsBack
    exact gathers.result_unset listed (.blank text isSet isBlank fallsBack)
  value_of_blank := by
    intro disk environment settings accepted rule listed text value isSet isBlank takes
    obtain ⟨file, _, outcome⟩ := gathers.exists_file accepted
    have same := outcome rule listed
    rw [SettingRule.outcome_of_isBlank isSet isBlank takes] at same
    exact (Except.ok.inj same).symm
  value_congr := by
    intro disk otherDisk environment otherEnvironment file otherFile settings otherSettings read otherRead
      accepted otherAccepted rule listed sameText sameDatum
    have outcome := gathers.outcome_of_file read accepted rule listed
    rw [SettingRule.outcome_congr sameText sameDatum,
      gathers.outcome_of_file otherRead otherAccepted rule listed] at outcome
    exact (Except.ok.inj outcome).symm

end Gathers

end Layers

/-! ## The ways to combine the layers of a setting -/

namespace SettingRule

variable {File Settings Datum Result : Type} {environment : Environment} {file : File}

/-- A number or a flag. A blank variable counts as if it were not there. -/
def parsed (variableName key : String) (value : Settings → Result) (datum : File → Option Datum)
    (ofJson? : Json → Option Datum) (ofText? : String → Option Datum) (turn : Datum → Result)
    (standard : Result) : SettingRule File Settings where
  variableName
  key
  Datum
  Value := Result
  read? := ofJson?
  datum
  value
  ofVariable text :=
    match ofText? (Text.trim text) with
    | some said => .ok (turn said)
    | none => .error (.invalidVariable variableName text)
  ofDatum said := .ok (turn said)
  standard
  whenBlank := none

/-- A text. A blank one counts as none, in the variable and in the file. -/
def shown (variableName key : String) (value : Settings → String) (datum : File → Option String)
    (turn : String → String) (standard : String) : SettingRule File Settings where
  variableName
  key
  Datum := String
  Value := String
  read? := Json.text?
  datum
  value
  ofVariable text := .ok (turn text)
  ofDatum text := .ok (if Text.isAllBlank text then standard else turn text)
  standard
  whenBlank := none

/-- A text of the variable or else of the file. A blank one has a meaning of its own. -/
def taken (variableName key : String) (value : Settings → Result) (datum : File → Option String)
    (turn : String → Except SettingError Result) (blank standard : Result) : SettingRule File Settings where
  variableName
  key
  Datum := String
  Value := Result
  read? := Json.text?
  datum
  value
  ofVariable := turn
  ofDatum text := if Text.isAllBlank text then .ok blank else turn text
  standard
  whenBlank := some blank

section Outcomes

variable {variableName key text : String}

theorem nonBlank_some :
    Setting.nonBlank (some text) = if Text.isAllBlank text then none else some text := by
  rw [Setting.nonBlank, Option.filter_some]
  cases Text.isAllBlank text <;> rfl

theorem outcome_parsed {value : Settings → Result} {datum : File → Option Datum}
    {ofJson? : Json → Option Datum} {ofText? : String → Option Datum} {turn : Datum → Result}
    {standard : Result} :
    (parsed variableName key value datum ofJson? ofText? turn standard).outcome environment file =
      (Setting.ofVariable ofText? environment variableName).map fun fromVariable =>
        ((fromVariable <|> datum file).map turn).getD standard := by
  have fromFile : (parsed variableName key value datum ofJson? ofText? turn standard).ofFile file =
      .ok (((datum file).map turn).getD standard) := by
    cases said : datum file <;> simp [ofFile, parsed, said]
  cases isSet : environment variableName with
  | none =>
    rw [outcome_of_isLeftToFile (.unset isSet), fromFile, Setting.ofVariable, isSet]
    rfl
  | some text =>
    cases isBlank : Text.isAllBlank text with
    | true =>
      rw [outcome_of_isLeftToFile (.blank text isSet isBlank rfl), fromFile, Setting.ofVariable, isSet,
        nonBlank_some, if_pos isBlank]
      rfl
    | false =>
      rw [outcome_of_text isSet isBlank, Setting.ofVariable, isSet, nonBlank_some, isBlank]
      cases read : ofText? (Text.trim text) <;> simp [parsed, read, Except.map]

theorem outcome_shown {value : Settings → String} {datum : File → Option String} {turn : String → String}
    {standard : String} :
    (shown variableName key value datum turn standard).outcome environment file =
      .ok (((Setting.nonBlank (environment variableName) <|> Setting.nonBlank (datum file)).map turn).getD
        standard) := by
  have fromFile : (shown variableName key value datum turn standard).ofFile file =
      .ok (((Setting.nonBlank (datum file)).map turn).getD standard) := by
    cases said : datum file with
    | none => simp [ofFile, shown, said, Setting.nonBlank]
    | some text =>
      cases isBlank : Text.isAllBlank text <;> simp [ofFile, shown, said, nonBlank_some, isBlank]
  cases isSet : environment variableName with
  | none =>
    rw [outcome_of_isLeftToFile (.unset isSet), fromFile]
    rfl
  | some text =>
    cases isBlank : Text.isAllBlank text with
    | true =>
      rw [outcome_of_isLeftToFile (.blank text isSet isBlank rfl), fromFile, nonBlank_some, if_pos isBlank]
      rfl
    | false =>
      rw [outcome_of_text isSet isBlank, nonBlank_some, isBlank]
      rfl

theorem outcome_taken {value : Settings → Result} {datum : File → Option String}
    {turn : String → Except SettingError Result} {blank standard : Result} :
    (taken variableName key value datum turn blank standard).outcome environment file =
      match environment variableName <|> datum file with
      | none => .ok standard
      | some text => if Text.isAllBlank text then .ok blank else turn text := by
  cases isSet : environment variableName with
  | none =>
    rw [outcome_of_isLeftToFile (.unset isSet)]
    cases said : datum file <;> simp [ofFile, taken, said]
  | some text =>
    cases isBlank : Text.isAllBlank text with
    | true =>
      rw [outcome_of_isBlank isSet isBlank rfl]
      simp [isBlank]
    | false =>
      rw [outcome_of_text isSet isBlank]
      simp [taken, isBlank]

end Outcomes

end SettingRule

end Telemetry
