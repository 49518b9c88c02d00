import Telemetry.Action
import Telemetry.Agent.Basic
import Telemetry.Agent.Calls
import Telemetry.Agent.Clockwork
import Telemetry.Agent.Error
import Telemetry.Agent.Pool
import Telemetry.Agent.ProcFiles
import Telemetry.Agent.Queue
import Telemetry.Agent.Readings
import Telemetry.Agent.Rehearsal
import Telemetry.Agent.Sampler
import Telemetry.Agent.Sender
import Telemetry.Agent.Settings
import Telemetry.Agent.Uplink
import Telemetry.Collector.Basic
import Telemetry.Collector.Command
import Telemetry.Collector.Error
import Telemetry.Collector.Handler
import Telemetry.Collector.Refusal
import Telemetry.Collector.Settings
import Telemetry.Compression.Bits
import Telemetry.Compression.Gzip
import Telemetry.Compression.Inflate
import Telemetry.Compression.PrefixCode
import Telemetry.Digest.Crc32
import Telemetry.Digest.Hmac
import Telemetry.Digest.Sha256
import Telemetry.Disk
import Telemetry.Http.Connection
import Telemetry.Http.Head
import Telemetry.Http.Headers
import Telemetry.Http.Message
import Telemetry.Http.Status
import Telemetry.Intake
import Telemetry.Json.Basic
import Telemetry.Json.Fields
import Telemetry.Json.Printer
import Telemetry.Json.Text
import Telemetry.Json.Token
import Telemetry.Launch
import Telemetry.Log
import Telemetry.Main
import Telemetry.Metric.Basic
import Telemetry.Metric.Validation
import Telemetry.Metric.Wire
import Telemetry.Net.Address
import Telemetry.Net.Subnet
import Telemetry.Net.Url
import Telemetry.Number.Binary64
import Telemetry.Number.Count
import Telemetry.Number.Decimal
import Telemetry.Number.Endian
import Telemetry.Number.Shortest
import Telemetry.Number.Word
import Telemetry.Payload.Error
import Telemetry.Payload.Frame
import Telemetry.Payload.Signature
import Telemetry.Protocol
import Telemetry.Retry
import Telemetry.Sealing.Der
import Telemetry.Sealing.Envelope
import Telemetry.Sealing.Key
import Telemetry.Sealing.Padding
import Telemetry.Sealing.Pem
import Telemetry.Service
import Telemetry.Setting.Error
import Telemetry.Setting.Layer
import Telemetry.Setting.LogFilter
import Telemetry.Shell.Files
import Telemetry.Shell.Network
import Telemetry.Shell.Report
import Telemetry.Shell.Reporting
import Telemetry.Shell.Serving
import Telemetry.StopSignal
import Telemetry.Store.Backend
import Telemetry.Store.Basic
import Telemetry.Store.Batch
import Telemetry.Store.Call
import Telemetry.Store.Choice
import Telemetry.Store.Database
import Telemetry.Store.DatabaseStorage
import Telemetry.Store.Error
import Telemetry.Store.Flusher
import Telemetry.Store.Memory
import Telemetry.Store.Roster
import Telemetry.Store.Saving
import Telemetry.Store.Snapshot
import Telemetry.Store.Statement
import Telemetry.Text.Base64
import Telemetry.Text.Blank
import Telemetry.Text.Bytes
import Telemetry.Text.CharacterClass
import Telemetry.Text.Hex
import Telemetry.Text.LetterCase
import Telemetry.Text.Lossy
import Telemetry.Text.Pieces
import Telemetry.Time
import Telemetry.Proofs.Store.Planning
import Telemetry.Proofs.Store.Accounting
import Telemetry.Proofs.Store.AnyOrder
import Telemetry.Proofs.Service.Batching
import Telemetry.Proofs.Effects
import Telemetry.Proofs.Service.Reading
import Telemetry.Proofs.Service.Effects
import Telemetry.Proofs.Collector.Effects
import Telemetry.Proofs.Collector.Embedding
import Telemetry.Proofs.Collector.Restart
import Telemetry.Proofs.Collector.Updates
import Telemetry.Proofs.Collector.Routes
import Telemetry.Proofs.Collector.Trust
import Telemetry.Proofs.Collector.ReadBack
import Telemetry.Proofs.Compression.Gzip
import Telemetry.Proofs.Sealing.Envelope
import Telemetry.Proofs.Json.Basic
import Telemetry.Proofs.Json.Printer
import Telemetry.Proofs.Number.Decimal
import Telemetry.Proofs.Number.Rounding
import Telemetry.Proofs.Number.Shortest
import Telemetry.Proofs.Json.Number
import Telemetry.Proofs.Metric.Wire
import Telemetry.Proofs.Payload.Frame
import Telemetry.Proofs.Http.Headers
import Telemetry.Proofs.Net.Address
import Telemetry.Proofs.Agent.Readings
import Telemetry.Proofs.Text.Pieces
import Telemetry.Proofs.Agent.Sender
import Telemetry.Proofs.Intake
import Telemetry.Proofs.Net.Url
import Telemetry.Proofs.Store.Snapshot
import Telemetry.Proofs.Store.Saving
import Telemetry.Proofs.Store.Durability
import Telemetry.Proofs.Retry
import Telemetry.Proofs.Store.Database
import Telemetry.Proofs.Store.DatabaseCalls
import Telemetry.Proofs.Store.Repetition
import Telemetry.Proofs.Store.Reload
import Telemetry.Proofs.Store.Commits
import Telemetry.Proofs.Run
import Telemetry.Proofs.Agent.Queue
import Telemetry.Proofs.Agent.Drain
import Telemetry.Proofs.Agent.History
import Telemetry.Proofs.Agent.Shutdown
import Telemetry.Proofs.Agent.Uplink
import Telemetry.Proofs.Delivery
import Telemetry.Proofs.Text.Hex
import Telemetry.Proofs.Number.Text
import Telemetry.Proofs.Metric.Text
import Telemetry.Proofs.Collector.Compression
import Telemetry.Proofs.Collector.FailedStart
import Telemetry.Proofs.Payload.Signature
import Telemetry.Proofs.Collector.TextUpdate
import Telemetry.Proofs.Net.Spelling
import Telemetry.Proofs.Net.Subnet
import Telemetry.Proofs.Payload.Blocks
import Telemetry.Proofs.Schedule
import Telemetry.Proofs.Service.Listing
import Telemetry.Proofs.Metric.Canonical
import Telemetry.Proofs.Agent.Batches
import Telemetry.Proofs.Agent.Address
import Telemetry.Proofs.Setting.Rule
import Telemetry.Proofs.Setting.Layers
import Telemetry.Proofs.Agent.Traffic
import Telemetry.Proofs.Agent.Capacity
import Telemetry.Proofs.Collector.Postponing
import Telemetry.Proofs.Collector.Undisturbed
