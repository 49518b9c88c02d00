import Telemetry.Net.Subnet
import Telemetry.Setting.Layer

/-!
# Settings of the collector

Where the collector listens, where and how often it keeps what it holds, whom it trusts, how payloads are
checked and opened, and how long shutting down may take.
-/

namespace Telemetry

/-- The settings of a collector. -/
structure CollectorSettings where
  /-- Where to listen, as a host and a port. -/
  address : String := "localhost:8080"
  /-- How often the snapshot is written; zero writes it with every update. -/
  storeInterval : Milliseconds := .ofSeconds 300
  /-- The path of the snapshot, if one is kept. -/
  storeFile : Option String := some "metrics_data"
  /-- Whether the snapshot is loaded at the start. -/
  restore : Bool := false
  /-- The address of a database to use in the place of the memory. -/
  database : Option String := none
  /-- The key of signatures. -/
  key : Option String := none
  /-- The path of the private key that opens sealed payloads. -/
  openingKey : Option String := none
  trustedSubnet : Option Subnet := none
  shutdownTimeout : Milliseconds := .ofSeconds 30
  logLevel : String := Setting.standardLevel
  deriving DecidableEq, Repr

/-- What a file of settings says; intervals are in seconds. -/
structure CollectorFile where
  address : Option String := none
  storeInterval : Option Nat := none
  storeFile : Option String := none
  restore : Option Bool := none
  database : Option String := none
  key : Option String := none
  openingKey : Option String := none
  trustedSubnet : Option String := none
  shutdownTimeout : Option Nat := none
  logLevel : Option String := none
  deriving DecidableEq, Repr

namespace CollectorFile

/-- The fields of a file, in order. -/
def fieldNames : List String :=
  ["address", "store_interval", "store_file", "restore", "database_dsn", "key", "crypto_key",
    "trusted_subnet", "shutdown_timeout", "log_level"]

/-- The settings that a JSON value holds. -/
def ofJson? (json : Json) : Option CollectorFile :=
  match Json.fields? fieldNames json with
  | some [address, storeInterval, storeFile, restore, database, key, openingKey, trustedSubnet,
      shutdownTimeout, logLevel] => do
    return {
      address := ← Json.optional? Json.text? address
      storeInterval := ← Json.optional? (Json.natural? wordLimit) storeInterval
      storeFile := ← Json.optional? Json.text? storeFile
      restore := ← Json.optional? Json.bool? restore
      database := ← Json.optional? Json.text? database
      key := ← Json.optional? Json.text? key
      openingKey := ← Json.optional? Json.text? openingKey
      trustedSubnet := ← Json.optional? Json.text? trustedSubnet
      shutdownTimeout := ← Json.optional? (Json.natural? wordLimit) shutdownTimeout
      logLevel := ← Json.optional? Json.text? logLevel }
  | _ => none

end CollectorFile

namespace CollectorSettings

/-- Checks settings that have been put together. -/
def validate (settings : CollectorSettings) : Except SettingError Unit :=
  if Text.isAllBlank settings.address then
    .error .emptyAddress
  else if !settings.address.toList.contains ':' then
    .error (.addressForm settings.address)
  else
    Setting.checkLogLevel settings.logLevel

/-- Whether every update writes the snapshot. -/
def storesEveryUpdate (settings : CollectorSettings) : Bool :=
  settings.storeInterval == 0

/-- Reads the trusted subnet from its layers. -/
def readSubnet (raw : Option String) : Except SettingError (Option Subnet) :=
  match Setting.nonBlank raw with
  | none => .ok none
  | some raw =>
    match Subnet.ofText raw with
    | .ok subnet => .ok (some subnet)
    | .error cause =>
      .error (.invalidVariable "TRUSTED_SUBNET" (raw ++ " (" ++ cause.message ++ ")"))

/-- The settings from an environment and what its file says. The path of the snapshot alone has a default
that a blank text takes away. -/
def ofLayers (environment : Environment) (file : CollectorFile) :
    Except SettingError CollectorSettings := do
  let standard : CollectorSettings := {}
  let trustedSubnet ← readSubnet (environment "TRUSTED_SUBNET" <|> file.trustedSubnet)
  let storeInterval ← Setting.ofVariable Setting.natural? environment "STORE_INTERVAL"
  let restore ← Setting.ofVariable Setting.flag? environment "RESTORE"
  let shutdownTimeout ← Setting.ofVariable Setting.natural? environment "SHUTDOWN_TIMEOUT"
  let address := Setting.nonBlank (environment "ADDRESS") <|> Setting.nonBlank file.address
  let settings : CollectorSettings :=
    { address := (address.map Text.trim).getD standard.address
      storeInterval :=
        ((storeInterval <|> file.storeInterval).map Milliseconds.ofSeconds).getD
          standard.storeInterval
      storeFile :=
        match environment "FILE_STORAGE_PATH" <|> file.storeFile with
        | some path => Setting.nonBlank (some path)
        | none => standard.storeFile
      restore := (restore <|> file.restore).getD standard.restore
      database := Setting.nonBlank (environment "DATABASE_DSN" <|> file.database)
      key := Setting.nonBlank (environment "KEY" <|> file.key)
      openingKey := Setting.nonBlank (environment "CRYPTO_KEY" <|> file.openingKey)
      trustedSubnet
      shutdownTimeout :=
        ((shutdownTimeout <|> file.shutdownTimeout).map Milliseconds.ofSeconds).getD
          standard.shutdownTimeout
      logLevel := Setting.logLevel environment file.logLevel }
  settings.validate
  return settings

/-- The paths of the files that a collector reads. -/
def paths (settings : CollectorSettings) : List String :=
  settings.openingKey.toList ++ settings.storeFile.toList

/-- The settings from an environment and the file that it names. -/
def ofEnvironment (disk : Disk) (environment : Environment) :
    Except SettingError CollectorSettings :=
  (Setting.file {} CollectorFile.ofJson? disk environment).bind (ofLayers environment)

end CollectorSettings

end Telemetry
