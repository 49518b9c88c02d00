import Telemetry.Agent.Settings
import Telemetry.Collector.Settings
import Telemetry.Proofs.Setting.Rule

/-!
# The layers of settings

The rules of the nine settings of an agent and of the ten of a collector. Both programs put their settings
together from the outcomes of these rules: first those that can fail, in a fixed order, then the others, and then
they check the whole. So of every setting it is known which layer decides.
-/

namespace Telemetry

namespace SettingRule

variable {File Settings : Type} {variableName key : String} {environment : Environment} {file : File}

/-- A duration, in seconds. -/
def duration (variableName key : String) (value : Settings → Milliseconds) (datum : File → Option Nat)
    (standard : Milliseconds) : SettingRule File Settings :=
  parsed variableName key value datum (Json.natural? wordLimit) Setting.natural? Milliseconds.ofSeconds standard

/-- A text that need not be there; a blank one takes it away. -/
def optional (variableName key : String) (value : Settings → Option String) (datum : File → Option String)
    (standard : Option String) : SettingRule File Settings :=
  taken variableName key value datum (fun text => .ok (some text)) none standard

/-- The level of the log. -/
def logLevel (value : Settings → String) (datum : File → Option String) : SettingRule File Settings :=
  taken "LOG_LEVEL" "log_level" value datum (fun text => .ok (Text.lowercase text)) Setting.standardLevel
    Setting.standardLevel

theorem outcome_duration {value : Settings → Milliseconds} {datum : File → Option Nat}
    {standard : Milliseconds} :
    (duration variableName key value datum standard).outcome environment file =
      (Setting.ofVariable Setting.natural? environment variableName).map fun fromVariable =>
        ((fromVariable <|> datum file).map Milliseconds.ofSeconds).getD standard :=
  outcome_parsed

theorem outcome_optional {value : Settings → Option String} {datum : File → Option String}
    {standard : Option String} :
    (optional variableName key value datum standard).outcome environment file =
      .ok (match environment variableName <|> datum file with
        | some text => Setting.nonBlank (some text)
        | none => standard) := by
  have taken : (optional variableName key value datum standard).outcome environment file = _ := outcome_taken
  rw [taken]
  cases environment variableName <|> datum file with
  | none => rfl
  | some text =>
    dsimp only
    rw [nonBlank_some]
    cases Text.isAllBlank text <;> rfl

theorem outcome_optional_none {value : Settings → Option String} {datum : File → Option String} :
    (optional variableName key value datum none).outcome environment file =
      .ok (Setting.nonBlank (environment variableName <|> datum file)) := by
  rw [outcome_optional]
  cases environment variableName <|> datum file <;> rfl

theorem outcome_logLevel {value : Settings → String} {datum : File → Option String} :
    (logLevel value datum).outcome environment file = .ok (Setting.logLevel environment (datum file)) := by
  have taken : (logLevel value datum).outcome environment file = _ := outcome_taken
  rw [taken, Setting.logLevel]
  cases environment "LOG_LEVEL" <|> datum file with
  | none => rfl
  | some text =>
    rw [nonBlank_some]
    dsimp only
    cases Text.isAllBlank text <;> rfl

end SettingRule

/-! ## The agent -/

namespace AgentSettings

variable {environment other : Environment} {file otherFile : AgentFile} {settings : AgentSettings}

namespace Rule

/-- Where the collector is. -/
def address : SettingRule AgentFile AgentSettings :=
  .shown "ADDRESS" "address" AgentSettings.address AgentFile.address normalizeAddress
    ({} : AgentSettings).address

def reportInterval : SettingRule AgentFile AgentSettings :=
  .duration "REPORT_INTERVAL" "report_interval" AgentSettings.reportInterval AgentFile.reportInterval
    ({} : AgentSettings).reportInterval

def pollInterval : SettingRule AgentFile AgentSettings :=
  .duration "POLL_INTERVAL" "poll_interval" AgentSettings.pollInterval AgentFile.pollInterval
    ({} : AgentSettings).pollInterval

def rateLimit : SettingRule AgentFile AgentSettings :=
  .parsed "RATE_LIMIT" "rate_limit" AgentSettings.rateLimit AgentFile.rateLimit (Json.natural? wordLimit)
    Setting.natural? id ({} : AgentSettings).rateLimit

def key : SettingRule AgentFile AgentSettings :=
  .optional "KEY" "key" AgentSettings.key AgentFile.key none

def sealingKey : SettingRule AgentFile AgentSettings :=
  .optional "CRYPTO_KEY" "crypto_key" AgentSettings.sealingKey AgentFile.sealingKey none

def shutdownTimeout : SettingRule AgentFile AgentSettings :=
  .duration "SHUTDOWN_TIMEOUT" "shutdown_timeout" AgentSettings.shutdownTimeout AgentFile.shutdownTimeout
    ({} : AgentSettings).shutdownTimeout

def requestTimeout : SettingRule AgentFile AgentSettings :=
  .duration "REQUEST_TIMEOUT" "request_timeout" AgentSettings.requestTimeout AgentFile.requestTimeout
    ({} : AgentSettings).requestTimeout

def logLevel : SettingRule AgentFile AgentSettings :=
  .logLevel AgentSettings.logLevel AgentFile.logLevel

end Rule

/-- The rules of the settings of an agent. -/
def rules : List (SettingRule AgentFile AgentSettings) :=
  [Rule.address, Rule.reportInterval, Rule.pollInterval, Rule.rateLimit, Rule.key, Rule.sealingKey,
    Rule.shutdownTimeout, Rule.requestTimeout, Rule.logLevel]

/-- The layers of the settings of an agent. -/
def layers : Layers AgentFile AgentSettings where
  rules
  empty := {}
  ofJson? := AgentFile.ofJson?
  order :=
    [Rule.reportInterval, Rule.pollInterval, Rule.rateLimit, Rule.shutdownTimeout, Rule.requestTimeout,
      Rule.address, Rule.key, Rule.sealingKey, Rule.logLevel]
  validate
  ofEnvironment

/-- What the rules come to is all that the settings are made of. The numbers can fail, in this order. -/
theorem ofLayers_eq :
    ofLayers environment file = (do
      let reportInterval ← Rule.reportInterval.outcome environment file
      let pollInterval ← Rule.pollInterval.outcome environment file
      let rateLimit ← Rule.rateLimit.outcome environment file
      let shutdownTimeout ← Rule.shutdownTimeout.outcome environment file
      let requestTimeout ← Rule.requestTimeout.outcome environment file
      let address ← Rule.address.outcome environment file
      let key ← Rule.key.outcome environment file
      let sealingKey ← Rule.sealingKey.outcome environment file
      let logLevel ← Rule.logLevel.outcome environment file
      let settings : AgentSettings :=
        ⟨address, reportInterval, pollInterval, rateLimit, key, sealingKey, shutdownTimeout, requestTimeout,
          logLevel⟩
      settings.validate
      return settings) := by
  rw [ofLayers, show Rule.reportInterval.outcome environment file = _ from SettingRule.outcome_duration,
    show Rule.pollInterval.outcome environment file = _ from SettingRule.outcome_duration,
    show Rule.rateLimit.outcome environment file = _ from SettingRule.outcome_parsed,
    show Rule.shutdownTimeout.outcome environment file = _ from SettingRule.outcome_duration,
    show Rule.requestTimeout.outcome environment file = _ from SettingRule.outcome_duration,
    show Rule.address.outcome environment file = _ from SettingRule.outcome_shown,
    show Rule.key.outcome environment file = _ from SettingRule.outcome_optional_none,
    show Rule.sealingKey.outcome environment file = _ from SettingRule.outcome_optional_none,
    show Rule.logLevel.outcome environment file = _ from SettingRule.outcome_logLevel]
  simp only [duration]
  -- A variable that cannot be read ends both sides at the same place.
  cases Setting.ofVariable Setting.natural? environment "REPORT_INTERVAL" with
  | error cause => rfl
  | ok reportInterval =>
  cases Setting.ofVariable Setting.natural? environment "POLL_INTERVAL" with
  | error cause => rfl
  | ok pollInterval =>
  cases Setting.ofVariable Setting.natural? environment "RATE_LIMIT" with
  | error cause => rfl
  | ok rateLimit =>
  cases Setting.ofVariable Setting.natural? environment "SHUTDOWN_TIMEOUT" with
  | error cause => rfl
  | ok shutdownTimeout =>
  cases Setting.ofVariable Setting.natural? environment "REQUEST_TIMEOUT" with
  | error cause => rfl
  | ok requestTimeout => simp only [Except.map, Option.map_id, id, bind, Except.bind]

theorem ofLayers_eq_error {cause : SettingError} (fails : layers.failure? environment file = some cause) :
    ofLayers environment file = .error cause := by
  rw [ofLayers_eq]
  refine SettingRule.bind_outcome_eq_error fails fun reportInterval fails => ?_
  refine SettingRule.bind_outcome_eq_error fails fun pollInterval fails => ?_
  refine SettingRule.bind_outcome_eq_error fails fun rateLimit fails => ?_
  refine SettingRule.bind_outcome_eq_error fails fun shutdownTimeout fails => ?_
  refine SettingRule.bind_outcome_eq_error fails fun requestTimeout fails => ?_
  refine SettingRule.bind_outcome_eq_error fails fun address fails => ?_
  refine SettingRule.bind_outcome_eq_error fails fun key fails => ?_
  refine SettingRule.bind_outcome_eq_error fails fun sealingKey fails => ?_
  refine SettingRule.bind_outcome_eq_error fails fun logLevel fails => ?_
  cases fails

theorem exists_of_failure?_eq_none (noneFails : layers.failure? environment file = none) :
    ∃ settings : AgentSettings,
      (∀ rule ∈ rules, rule.outcome environment file = .ok (rule.value settings)) ∧
      ofLayers environment file = settings.validate.map fun _ => settings := by
  simp only [Layers.failure?, List.findSome?_eq_none_iff, SettingRule.failure?_eq_none_iff, layers,
    List.forall_mem_cons] at noneFails
  obtain ⟨⟨reportInterval, report⟩, ⟨pollInterval, poll⟩, ⟨rateLimit, limit⟩, ⟨shutdownTimeout, shutdown⟩,
    ⟨requestTimeout, request⟩, ⟨address, addressed⟩, ⟨key, keyed⟩, ⟨sealingKey, sealed⟩,
    ⟨logLevel, level⟩, -⟩ := noneFails
  refine ⟨⟨address, reportInterval, pollInterval, rateLimit, key, sealingKey, shutdownTimeout, requestTimeout,
    logLevel⟩, ?_, ?_⟩
  · simp only [rules, List.forall_mem_cons]
    exact ⟨addressed, report, poll, limit, keyed, sealed, shutdown, request, level, List.forall_mem_nil _⟩
  · rw [ofLayers_eq, report, poll, limit, shutdown, request, addressed, keyed, sealed, level]
    rfl

theorem cover : layers.Cover where
  settings_ext := by
    rintro ⟨⟩ ⟨⟩ same
    simp only [layers, rules, List.forall_mem_cons] at same
    obtain ⟨address, reportInterval, pollInterval, rateLimit, key, sealingKey, shutdownTimeout, requestTimeout,
      logLevel, -⟩ := same
    rw [AgentSettings.mk.injEq]
    exact ⟨address, reportInterval, pollInterval, rateLimit, key, sealingKey, shutdownTimeout, requestTimeout,
      logLevel⟩
  file_ext := by
    rintro ⟨⟩ ⟨⟩ same
    simp only [layers, rules, List.forall_mem_cons] at same
    obtain ⟨address, reportInterval, pollInterval, rateLimit, key, sealingKey, shutdownTimeout, requestTimeout,
      logLevel, -⟩ := same
    rw [AgentFile.mk.injEq]
    exact ⟨address, reportInterval, pollInterval, rateLimit, key, sealingKey, shutdownTimeout, requestTimeout,
      logLevel⟩
  nodup_variableName := by decide
  variableName_ne := by decide
  mem_order_iff := by
    intro rule
    simp only [layers, rules, List.mem_cons, List.not_mem_nil, or_false]
    tauto
  nodup_key := by decide
  datum_eq := by
    intro json file read
    unfold layers AgentFile.ofJson? at read
    dsimp only at read
    split at read
    · next held =>
      simp only [Option.bind_eq_bind, Option.bind_eq_some_iff, Option.pure_def, Option.some.injEq] at read
      obtain ⟨_, address, _, reportInterval, _, pollInterval, _, rateLimit, _, key, _, sealingKey, _,
        shutdownTimeout, _, requestTimeout, _, logLevel, rfl⟩ := read
      exact ⟨_, held, .cons address <| .cons reportInterval <| .cons pollInterval <| .cons rateLimit <|
        .cons key <| .cons sealingKey <| .cons shutdownTimeout <| .cons requestTimeout <|
        .cons logLevel .nil⟩
    · cases read

theorem gathers : layers.Gathers ofLayers where
  toCover := cover
  ofEnvironment_eq _ _ := rfl
  fails := ofLayers_eq_error
  settles := exists_of_failure?_eq_none

/-- What is left of the settings that a blank variable takes away. -/
structure TakenByBlank (environment : Environment) (settings : AgentSettings) : Prop where
  key : environment.IsBlankAt "KEY" → settings.key = none
  sealingKey : environment.IsBlankAt "CRYPTO_KEY" → settings.sealingKey = none
  logLevel : environment.IsBlankAt "LOG_LEVEL" → settings.logLevel = Setting.standardLevel

theorem takenByBlank {disk : Disk} (accepted : ofEnvironment disk environment = .ok settings) :
    settings.TakenByBlank environment := by
  have decides := gathers.decide
  exact {
    key := decides.value_of_isBlankAt accepted (show Rule.key ∈ rules by simp [rules]) rfl
    sealingKey := decides.value_of_isBlankAt accepted (show Rule.sealingKey ∈ rules by simp [rules]) rfl
    logLevel := decides.value_of_isBlankAt accepted (show Rule.logLevel ∈ rules by simp [rules]) rfl }

end AgentSettings

/-! ## The collector -/

namespace CollectorSettings

variable {environment other : Environment} {file otherFile : CollectorFile} {settings : CollectorSettings}

namespace Rule

/-- Where to listen. -/
def address : SettingRule CollectorFile CollectorSettings :=
  .shown "ADDRESS" "address" CollectorSettings.address CollectorFile.address Text.trim
    ({} : CollectorSettings).address

def storeInterval : SettingRule CollectorFile CollectorSettings :=
  .duration "STORE_INTERVAL" "store_interval" CollectorSettings.storeInterval CollectorFile.storeInterval
    ({} : CollectorSettings).storeInterval

/-- The path of the snapshot: the one text that may be missing and has a default. -/
def storeFile : SettingRule CollectorFile CollectorSettings :=
  .optional "FILE_STORAGE_PATH" "store_file" CollectorSettings.storeFile CollectorFile.storeFile
    ({} : CollectorSettings).storeFile

def restore : SettingRule CollectorFile CollectorSettings :=
  .parsed "RESTORE" "restore" CollectorSettings.restore CollectorFile.restore Json.bool? Setting.flag? id
    ({} : CollectorSettings).restore

def database : SettingRule CollectorFile CollectorSettings :=
  .optional "DATABASE_DSN" "database_dsn" CollectorSettings.database CollectorFile.database none

def key : SettingRule CollectorFile CollectorSettings :=
  .optional "KEY" "key" CollectorSettings.key CollectorFile.key none

def openingKey : SettingRule CollectorFile CollectorSettings :=
  .optional "CRYPTO_KEY" "crypto_key" CollectorSettings.openingKey CollectorFile.openingKey none

/-- The subnet that a text writes. The wording of a failure is that of a variable, wherever the text is from. -/
def subnetOf (text : String) : Except SettingError (Option Subnet) :=
  match Subnet.ofText text with
  | .ok subnet => .ok (some subnet)
  | .error cause => .error (.invalidVariable "TRUSTED_SUBNET" (text ++ " (" ++ cause.message ++ ")"))

def trustedSubnet : SettingRule CollectorFile CollectorSettings :=
  .taken "TRUSTED_SUBNET" "trusted_subnet" CollectorSettings.trustedSubnet CollectorFile.trustedSubnet subnetOf
    none none

def shutdownTimeout : SettingRule CollectorFile CollectorSettings :=
  .duration "SHUTDOWN_TIMEOUT" "shutdown_timeout" CollectorSettings.shutdownTimeout
    CollectorFile.shutdownTimeout ({} : CollectorSettings).shutdownTimeout

def logLevel : SettingRule CollectorFile CollectorSettings :=
  .logLevel CollectorSettings.logLevel CollectorFile.logLevel

theorem readSubnet_some {text : String} :
    readSubnet (some text) = if Text.isAllBlank text then .ok none else subnetOf text := by
  rw [readSubnet, SettingRule.nonBlank_some]
  by_cases isBlank : Text.isAllBlank text
  · rw [if_pos isBlank, if_pos isBlank]
  · rw [if_neg isBlank, if_neg isBlank]
    cases parsed : Subnet.ofText text with
    | ok subnet => simp only [subnetOf, parsed]
    | error cause => simp only [subnetOf, parsed]

theorem outcome_trustedSubnet :
    trustedSubnet.outcome environment file = readSubnet (environment "TRUSTED_SUBNET" <|> file.trustedSubnet) := by
  have taken : trustedSubnet.outcome environment file = _ := SettingRule.outcome_taken
  rw [taken]
  cases environment "TRUSTED_SUBNET" <|> file.trustedSubnet with
  | none => rfl
  | some text => exact readSubnet_some.symm

end Rule

/-- The rules of the settings of a collector. -/
def rules : List (SettingRule CollectorFile CollectorSettings) :=
  [Rule.address, Rule.storeInterval, Rule.storeFile, Rule.restore, Rule.database, Rule.key, Rule.openingKey,
    Rule.trustedSubnet, Rule.shutdownTimeout, Rule.logLevel]

/-- The layers of the settings of a collector. -/
def layers : Layers CollectorFile CollectorSettings where
  rules
  empty := {}
  ofJson? := CollectorFile.ofJson?
  order :=
    [Rule.trustedSubnet, Rule.storeInterval, Rule.restore, Rule.shutdownTimeout, Rule.address, Rule.storeFile,
      Rule.database, Rule.key, Rule.openingKey, Rule.logLevel]
  validate
  ofEnvironment

/-- What the rules come to is all that the settings are made of. The subnet can fail and then the numbers and the
flag, in this order. -/
theorem ofLayers_eq :
    ofLayers environment file = (do
      let trustedSubnet ← Rule.trustedSubnet.outcome environment file
      let storeInterval ← Rule.storeInterval.outcome environment file
      let restore ← Rule.restore.outcome environment file
      let shutdownTimeout ← Rule.shutdownTimeout.outcome environment file
      let address ← Rule.address.outcome environment file
      let storeFile ← Rule.storeFile.outcome environment file
      let database ← Rule.database.outcome environment file
      let key ← Rule.key.outcome environment file
      let openingKey ← Rule.openingKey.outcome environment file
      let logLevel ← Rule.logLevel.outcome environment file
      let settings : CollectorSettings :=
        ⟨address, storeInterval, storeFile, restore, database, key, openingKey, trustedSubnet, shutdownTimeout,
          logLevel⟩
      settings.validate
      return settings) := by
  rw [ofLayers, Rule.outcome_trustedSubnet,
    show Rule.storeInterval.outcome environment file = _ from SettingRule.outcome_duration,
    show Rule.restore.outcome environment file = _ from SettingRule.outcome_parsed,
    show Rule.shutdownTimeout.outcome environment file = _ from SettingRule.outcome_duration,
    show Rule.address.outcome environment file = _ from SettingRule.outcome_shown,
    show Rule.storeFile.outcome environment file = _ from SettingRule.outcome_optional,
    show Rule.database.outcome environment file = _ from SettingRule.outcome_optional_none,
    show Rule.key.outcome environment file = _ from SettingRule.outcome_optional_none,
    show Rule.openingKey.outcome environment file = _ from SettingRule.outcome_optional_none,
    show Rule.logLevel.outcome environment file = _ from SettingRule.outcome_logLevel]
  -- What cannot be read ends both sides at the same place.
  cases readSubnet (environment "TRUSTED_SUBNET" <|> file.trustedSubnet) with
  | error cause => rfl
  | ok trustedSubnet =>
  cases Setting.ofVariable Setting.natural? environment "STORE_INTERVAL" with
  | error cause => rfl
  | ok storeInterval =>
  cases Setting.ofVariable Setting.flag? environment "RESTORE" with
  | error cause => rfl
  | ok restore =>
  cases Setting.ofVariable Setting.natural? environment "SHUTDOWN_TIMEOUT" with
  | error cause => rfl
  | ok shutdownTimeout =>
    simp only [Except.map, Option.map_id, id, bind, Except.bind]
    rfl

theorem ofLayers_eq_error {cause : SettingError} (fails : layers.failure? environment file = some cause) :
    ofLayers environment file = .error cause := by
  rw [ofLayers_eq]
  refine SettingRule.bind_outcome_eq_error fails fun trustedSubnet fails => ?_
  refine SettingRule.bind_outcome_eq_error fails fun storeInterval fails => ?_
  refine SettingRule.bind_outcome_eq_error fails fun restore fails => ?_
  refine SettingRule.bind_outcome_eq_error fails fun shutdownTimeout fails => ?_
  refine SettingRule.bind_outcome_eq_error fails fun address fails => ?_
  refine SettingRule.bind_outcome_eq_error fails fun storeFile fails => ?_
  refine SettingRule.bind_outcome_eq_error fails fun database fails => ?_
  refine SettingRule.bind_outcome_eq_error fails fun key fails => ?_
  refine SettingRule.bind_outcome_eq_error fails fun openingKey fails => ?_
  refine SettingRule.bind_outcome_eq_error fails fun logLevel fails => ?_
  cases fails

theorem exists_of_failure?_eq_none (noneFails : layers.failure? environment file = none) :
    ∃ settings : CollectorSettings,
      (∀ rule ∈ rules, rule.outcome environment file = .ok (rule.value settings)) ∧
        ofLayers environment file = settings.validate.map fun _ => settings := by
  simp only [Layers.failure?, List.findSome?_eq_none_iff, SettingRule.failure?_eq_none_iff, layers,
    List.forall_mem_cons] at noneFails
  obtain ⟨⟨trustedSubnet, trusted⟩, ⟨storeInterval, interval⟩, ⟨restore, restored⟩,
    ⟨shutdownTimeout, shutdown⟩, ⟨address, addressed⟩, ⟨storeFile, stored⟩, ⟨database, kept⟩, ⟨key, keyed⟩,
    ⟨openingKey, opening⟩, ⟨logLevel, level⟩, -⟩ := noneFails
  refine ⟨⟨address, storeInterval, storeFile, restore, database, key, openingKey, trustedSubnet,
    shutdownTimeout, logLevel⟩, ?_, ?_⟩
  · simp only [rules, List.forall_mem_cons]
    exact ⟨addressed, interval, stored, restored, kept, keyed, opening, trusted, shutdown, level,
      List.forall_mem_nil _⟩
  · rw [ofLayers_eq, trusted, interval, restored, shutdown, addressed, stored, kept, keyed, opening, level]
    rfl

theorem cover : layers.Cover where
  settings_ext := by
    rintro ⟨⟩ ⟨⟩ same
    simp only [layers, rules, List.forall_mem_cons] at same
    obtain ⟨address, storeInterval, storeFile, restore, database, key, openingKey, trustedSubnet,
      shutdownTimeout, logLevel, -⟩ := same
    rw [CollectorSettings.mk.injEq]
    exact ⟨address, storeInterval, storeFile, restore, database, key, openingKey, trustedSubnet,
      shutdownTimeout, logLevel⟩
  file_ext := by
    rintro ⟨⟩ ⟨⟩ same
    simp only [layers, rules, List.forall_mem_cons] at same
    obtain ⟨address, storeInterval, storeFile, restore, database, key, openingKey, trustedSubnet,
      shutdownTimeout, logLevel, -⟩ := same
    rw [CollectorFile.mk.injEq]
    exact ⟨address, storeInterval, storeFile, restore, database, key, openingKey, trustedSubnet,
      shutdownTimeout, logLevel⟩
  nodup_variableName := by decide
  variableName_ne := by decide
  mem_order_iff := by
    intro rule
    simp only [layers, rules, List.mem_cons, List.not_mem_nil, or_false]
    tauto
  nodup_key := by decide
  datum_eq := by
    intro json file read
    unfold layers CollectorFile.ofJson? at read
    dsimp only at read
    split at read
    · next held =>
      simp only [Option.bind_eq_bind, Option.bind_eq_some_iff, Option.pure_def, Option.some.injEq] at read
      obtain ⟨_, address, _, storeInterval, _, storeFile, _, restore, _, database, _, key, _, openingKey, _,
        trustedSubnet, _, shutdownTimeout, _, logLevel, rfl⟩ := read
      exact ⟨_, held, .cons address <| .cons storeInterval <| .cons storeFile <| .cons restore <|
        .cons database <| .cons key <| .cons openingKey <| .cons trustedSubnet <| .cons shutdownTimeout <|
        .cons logLevel .nil⟩
    · cases read

theorem gathers : layers.Gathers ofLayers where
  toCover := cover
  ofEnvironment_eq _ _ := rfl
  fails := ofLayers_eq_error
  settles := exists_of_failure?_eq_none

/-- What is left of the settings that a blank variable takes away. -/
structure TakenByBlank (environment : Environment) (settings : CollectorSettings) : Prop where
  storeFile : environment.IsBlankAt "FILE_STORAGE_PATH" → settings.storeFile = none
  database : environment.IsBlankAt "DATABASE_DSN" → settings.database = none
  key : environment.IsBlankAt "KEY" → settings.key = none
  openingKey : environment.IsBlankAt "CRYPTO_KEY" → settings.openingKey = none
  trustedSubnet : environment.IsBlankAt "TRUSTED_SUBNET" → settings.trustedSubnet = none
  logLevel : environment.IsBlankAt "LOG_LEVEL" → settings.logLevel = Setting.standardLevel

theorem takenByBlank {disk : Disk} (accepted : ofEnvironment disk environment = .ok settings) :
    settings.TakenByBlank environment := by
  have decides := gathers.decide
  exact {
    storeFile := decides.value_of_isBlankAt accepted (show Rule.storeFile ∈ rules by simp [rules]) rfl
    database := decides.value_of_isBlankAt accepted (show Rule.database ∈ rules by simp [rules]) rfl
    key := decides.value_of_isBlankAt accepted (show Rule.key ∈ rules by simp [rules]) rfl
    openingKey := decides.value_of_isBlankAt accepted (show Rule.openingKey ∈ rules by simp [rules]) rfl
    trustedSubnet := decides.value_of_isBlankAt accepted (show Rule.trustedSubnet ∈ rules by simp [rules]) rfl
    logLevel := decides.value_of_isBlankAt accepted (show Rule.logLevel ∈ rules by simp [rules]) rfl }

end CollectorSettings

/-! ## Both programs -/

/-- In both programs the settings come to exactly what their rules and the check say, failures included. A variable
that is not blank decides its setting alone. Without it the file decides, and without either the default. A blank
variable takes some settings away even if the file has them, and counts as if it were not there for the others.
And no setting depends on the variable or the key of another one. -/
theorem Setting.layers_decide :
    (AgentSettings.layers.Decide ∧
      AgentSettings.layers.takenByBlank = ["KEY", "CRYPTO_KEY", "LOG_LEVEL"] ∧
      ∀ disk environment settings, AgentSettings.ofEnvironment disk environment = .ok settings →
        settings.TakenByBlank environment) ∧
    (CollectorSettings.layers.Decide ∧
      CollectorSettings.layers.takenByBlank =
        ["FILE_STORAGE_PATH", "DATABASE_DSN", "KEY", "CRYPTO_KEY", "TRUSTED_SUBNET", "LOG_LEVEL"] ∧
      ∀ disk environment settings, CollectorSettings.ofEnvironment disk environment = .ok settings →
        settings.TakenByBlank environment) := by
  constructor
  · exact ⟨AgentSettings.gathers.decide, by decide, fun _ _ _ => AgentSettings.takenByBlank⟩
  · exact ⟨CollectorSettings.gathers.decide, by decide, fun _ _ _ => CollectorSettings.takenByBlank⟩

/-- Each program reads a file, a variable and two blank variables. The blank key and the blank path take those of
the files away, and the blank intervals leave those of the files. -/
theorem Setting.layers_decide_with_blanks :
    let agentText := "\x7b\"key\":\"secret\",\"report_interval\":5\x7d"
    let collectorText := "\x7b\"store_file\":\"kept.json\",\"store_interval\":7,\"restore\":false\x7d"
    let disk := (Disk.empty.put "agent.json" (.file (Text.utf8 agentText))).put "collector.json"
      (.file (Text.utf8 collectorText))
    let agent := [("CONFIG", "agent.json"), ("KEY", " "), ("REPORT_INTERVAL", " "), ("RATE_LIMIT", "3")]
    let collector :=
      [("CONFIG", "collector.json"), ("FILE_STORAGE_PATH", " "), ("STORE_INTERVAL", " "), ("RESTORE", "yes")]
    AgentSettings.ofEnvironment disk (fun name => agent.lookup name) =
      .ok { reportInterval := .ofSeconds 5, rateLimit := 3 } ∧
    CollectorSettings.ofEnvironment disk (fun name => collector.lookup name) =
      .ok { storeInterval := .ofSeconds 7, storeFile := none, restore := true } := by
  intro agentText collectorText disk agent collector
  constructor
  · have read : AgentSettings.layers.file disk (fun name => agent.lookup name) =
        .ok { key := some "secret", reportInterval := some 5 } := by
      decide +kernel
    refine layers_decide.1.1.result_iff.2 (.accepted read ?_ (by decide +kernel))
    simp only [AgentSettings.layers, AgentSettings.rules, List.forall_mem_cons]
    exact ⟨rfl, rfl, rfl, rfl, rfl, rfl, rfl, rfl, rfl, nofun⟩
  · have read : CollectorSettings.layers.file disk (fun name => collector.lookup name) =
        .ok { storeFile := some "kept.json", storeInterval := some 7, restore := some false } := by
      decide +kernel
    refine layers_decide.2.1.result_iff.2 (.accepted read ?_ (by decide +kernel))
    simp only [CollectorSettings.layers, CollectorSettings.rules, List.forall_mem_cons]
    exact ⟨rfl, rfl, rfl, rfl, rfl, rfl, rfl, rfl, rfl, rfl, nofun⟩

end Telemetry
