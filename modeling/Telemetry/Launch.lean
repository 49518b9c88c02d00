import Telemetry.Agent.Sender
import Telemetry.Agent.Settings
import Telemetry.Collector.Conversation

/-!
# Launching a program

A program reads its settings, sets the log up, and starts. When one of these fails, it logs a line about
that and exits with a failure. The level of the log is that of the settings, or the standard one when the
settings could not be read.
-/

namespace Telemetry

/-- What comes of launching a program. -/
structure Launch (Running : Type) where
  /-- The level of the log. -/
  logLevel : String
  /-- What runs, unless it could not be started. -/
  running : Option Running
  /-- What has been logged so far. -/
  log : List LogLine
  /-- The disk as it was left. -/
  disk : Disk

namespace Launch

/-- A program whose settings could not be read. -/
def withoutSettings {Running : Type} (program : String) (cause : SettingError) (disk : Disk) :
    Launch Running :=
  ⟨Setting.standardLevel, none,
    [.error ("Error creating " ++ program ++ " config: " ++ cause.message)], disk⟩

/-- Of what has been logged, the lines that the level of the log shows. -/
def shown {Running : Type} (launch : Launch Running) (source : String) : List LogLine :=
  launch.log.filter (LogFilter.shows launch.logLevel source)

end Launch

namespace Agent

/-- The source of the lines that the agent logs. -/
def logSource : String := "metrics_agent"

/-- The sender that the settings describe. -/
def senderOf (disk : Disk) (settings : AgentSettings) : Except AgentError Sender :=
  match PublicKey.load disk settings.sealingKey with
  | .ok sealingKey => .ok (Sender.toCollector settings.address ⟨settings.key, sealingKey⟩)
  | .error cause => .error (.key cause)

/-- Launches an agent: finds its settings and its sender. -/
def launch (disk : Disk) (environment : Environment) : Launch (AgentSettings × Sender) :=
  match AgentSettings.ofEnvironment disk environment with
  | .error cause => .withoutSettings "agent" cause disk
  | .ok settings =>
    match senderOf disk settings with
    | .ok sender => ⟨settings.logLevel, some (settings, sender), [], disk⟩
    | .error cause =>
      ⟨settings.logLevel, none, [.error ("Error when starting metrics agent: " ++ cause.message)], disk⟩

end Agent

namespace Collector

/-- The source of the lines that the collector logs. -/
def logSource : String := "metrics_server"

/-- Launches a collector: finds its settings and starts it. -/
def launch (listen : String → Nat → Except IoError Unit) (disk : Disk) (database : Database)
    (environment : Environment) : Launch (CollectorSettings × Collector) :=
  match CollectorSettings.ofEnvironment disk environment with
  | .error cause => .withoutSettings "server" cause disk
  | .ok settings =>
    let started := start listen settings disk database
    match started.result with
    | .ok collector => ⟨settings.logLevel, some (settings, collector), started.log, started.world⟩
    | .error cause =>
      ⟨settings.logLevel, none,
        started.log ++ [.error ("Error when starting metrics server: " ++ cause.message)],
        started.world⟩

/-- The line about a collector that stopped before it was told to. -/
def failedLine (cause : CollectorError) : LogLine :=
  .error ("Metrics server failed: " ++ cause.message)

/-- The failure with which a collector has ended. -/
def failure? (collector : Collector) : Option CollectorError :=
  match collector.stage with
  | .ended (some cause) => some (.serve cause)
  | _ => none

end Collector

namespace Launch

/-- A launch after which the collector is told to shut down: what has been logged by its end, and the disk
as it is then. -/
def shutDown (launch : Launch (CollectorSettings × Collector)) :
    Launch (CollectorSettings × Collector) :=
  match launch.running with
  | none => launch
  | some (settings, collector) =>
    let (ended, lines) := collector.shutDown none
    ⟨launch.logLevel, some (settings, ended), launch.log ++ lines, ended.storage.disk⟩

end Launch

end Telemetry
