import Telemetry.Setting.Layer

/-!
# Settings of the agent

Where the collector is, how often readings are taken and sent, by how many workers, how payloads are
signed and sealed, and how long shutting down may take.
-/

namespace Telemetry

/-- The settings of an agent. -/
structure AgentSettings where
  /-- The address of the collector, with a scheme. -/
  address : String := "http://localhost:8080"
  reportInterval : Milliseconds := .ofSeconds 10
  pollInterval : Milliseconds := .ofSeconds 2
  /-- How many batches may be on their way at once; zero counts as one. -/
  rateLimit : Nat := 0
  /-- The key of signatures. -/
  key : Option String := none
  /-- The path of the public key that payloads are sealed for. -/
  sealingKey : Option String := none
  shutdownTimeout : Milliseconds := .ofSeconds 10
  requestTimeout : Milliseconds := .ofSeconds 5
  logLevel : String := Setting.standardLevel
  deriving DecidableEq, Repr

/-- What a file of settings says; intervals are in seconds. -/
structure AgentFile where
  address : Option String := none
  reportInterval : Option Nat := none
  pollInterval : Option Nat := none
  rateLimit : Option Nat := none
  key : Option String := none
  sealingKey : Option String := none
  shutdownTimeout : Option Nat := none
  requestTimeout : Option Nat := none
  logLevel : Option String := none
  deriving DecidableEq, Repr

namespace AgentFile

/-- The fields of a file, in order. -/
def fieldNames : List String :=
  ["address", "report_interval", "poll_interval", "rate_limit", "key", "crypto_key",
    "shutdown_timeout", "request_timeout", "log_level"]

/-- The settings that a JSON value holds. -/
def ofJson? (json : Json) : Option AgentFile :=
  match Json.fields? fieldNames json with
  | some [address, reportInterval, pollInterval, rateLimit, key, sealingKey, shutdownTimeout,
      requestTimeout, logLevel] => do
    return {
      address := ← Json.optional? Json.text? address
      reportInterval := ← Json.optional? (Json.natural? wordLimit) reportInterval
      pollInterval := ← Json.optional? (Json.natural? wordLimit) pollInterval
      rateLimit := ← Json.optional? (Json.natural? wordLimit) rateLimit
      key := ← Json.optional? Json.text? key
      sealingKey := ← Json.optional? Json.text? sealingKey
      shutdownTimeout := ← Json.optional? (Json.natural? wordLimit) shutdownTimeout
      requestTimeout := ← Json.optional? (Json.natural? wordLimit) requestTimeout
      logLevel := ← Json.optional? Json.text? logLevel }
  | _ => none

end AgentFile

namespace AgentSettings

/-- The scheme of an address that names none. -/
def scheme : String := "http://"

/-- The scheme of an address that is reached over an encrypted connection. -/
def secureScheme : String := "https://"

/-- Whether a text begins with a scheme. -/
def hasScheme (address : List Char) : Bool :=
  scheme.toList.isPrefixOf address || secureScheme.toList.isPrefixOf address

/-- The address without blanks at the ends and slashes at its end, with a scheme in front. -/
def normalizeAddress (address : String) : String :=
  let bare := ((Text.trim address).toList.reverse.dropWhile (· == '/')).reverse
  if hasScheme bare then String.ofList bare else scheme ++ String.ofList bare

/-- Whether a text is another one, any number of times in a row. -/
def isRepetition (unit text : String) : Bool :=
  text.toList == (List.replicate (text.length / unit.length) unit.toList).flatten

/-- Checks settings that have been put together. -/
def validate (settings : AgentSettings) : Except SettingError Unit :=
  if isRepetition scheme settings.address || isRepetition secureScheme settings.address then
    .error .emptyAddress
  else if settings.reportInterval = 0 then
    .error (.notPositive "REPORT_INTERVAL")
  else if settings.pollInterval = 0 then
    .error (.notPositive "POLL_INTERVAL")
  else if settings.requestTimeout = 0 then
    .error (.notPositive "REQUEST_TIMEOUT")
  else
    Setting.checkLogLevel settings.logLevel

/-- How many workers there are. -/
def concurrency (settings : AgentSettings) : Nat :=
  max settings.rateLimit 1

/-- A duration in seconds from a variable, the file or the default. -/
def duration (environment : Environment) (name : String) (fromFile : Option Nat)
    (standard : Milliseconds) : Except SettingError Milliseconds :=
  (Setting.ofVariable Setting.natural? environment name).map fun fromVariable =>
    ((fromVariable <|> fromFile).map Milliseconds.ofSeconds).getD standard

/-- The settings from an environment and what its file says. -/
def ofLayers (environment : Environment) (file : AgentFile) : Except SettingError AgentSettings := do
  let standard : AgentSettings := {}
  let reportInterval ← duration environment "REPORT_INTERVAL" file.reportInterval
    standard.reportInterval
  let pollInterval ← duration environment "POLL_INTERVAL" file.pollInterval standard.pollInterval
  let rateLimit ← Setting.ofVariable Setting.natural? environment "RATE_LIMIT"
  let shutdownTimeout ← duration environment "SHUTDOWN_TIMEOUT" file.shutdownTimeout
    standard.shutdownTimeout
  let requestTimeout ← duration environment "REQUEST_TIMEOUT" file.requestTimeout
    standard.requestTimeout
  let address := Setting.nonBlank (environment "ADDRESS") <|> Setting.nonBlank file.address
  let settings : AgentSettings :=
    { address := (address.map normalizeAddress).getD standard.address
      reportInterval
      pollInterval
      rateLimit := (rateLimit <|> file.rateLimit).getD standard.rateLimit
      key := Setting.nonBlank (environment "KEY" <|> file.key)
      sealingKey := Setting.nonBlank (environment "CRYPTO_KEY" <|> file.sealingKey)
      shutdownTimeout
      requestTimeout
      logLevel := Setting.logLevel environment file.logLevel }
  settings.validate
  return settings

/-- The paths of the files that an agent reads. -/
def paths (settings : AgentSettings) : List String :=
  settings.sealingKey.toList

/-- The settings from an environment and the file that it names. -/
def ofEnvironment (disk : Disk) (environment : Environment) : Except SettingError AgentSettings :=
  (Setting.file {} AgentFile.ofJson? disk environment).bind (ofLayers environment)

end AgentSettings

end Telemetry
