import Telemetry.Collector.Basic

/-!
# Conversations with a collector

What the bytes of a connection make happen, and what happens when one connection is there at a time: its
requests are answered one after another, with the snapshots that they call for.
-/

namespace Telemetry

namespace Collector

/-- The steps in which a snapshot is written. -/
def snapshotEvents (saver : Nat) : List CollectorEvent :=
  List.replicate 6 (.goOn saver)

/-- A request with the snapshot that it may call for. -/
def requestEvents (connection : Nat) (request : Request) : List CollectorEvent :=
  .request connection request :: snapshotEvents connection

/-- The end of a collector once it is told to shut down. -/
def endingEvents : List CollectorEvent :=
  [.drained, .timeUp, .closeStorage] ++ snapshotEvents ownNumber

/-- What the bytes of a connection make happen, and whether the connection comes to an end of itself when
the collector shuts down, which it does not in the middle of a request. There are so many requests at
most. -/
def eventsOf (connection : Nat) : Nat → Bytes → List CollectorEvent × Bool
  | 0, bytes => ([], bytes.isEmpty)
  | most + 1, bytes =>
    match Request.read bytes with
    | .partly => ([], bytes.isEmpty)
    | .malformed fault => ([.close connection (some fault)], true)
    | .whole request rest =>
      if request.keepsConnection then
        let (events, ends) := eventsOf connection most rest
        (requestEvents connection request ++ events, ends)
      else
        (requestEvents connection request ++ [.close connection none], true)

/-- The collector after those of the steps that can happen, and what they did. -/
def follow (collector : Collector) : List CollectorEvent → Collector × List CollectorEffect
  | [] => (collector, [])
  | event :: events =>
    match collector.step event with
    | none => collector.follow events
    | some (next, effects) =>
      let (final, later) := next.follow events
      (final, effects ++ later)

/-- A request on a connection of its own: the response, if there is one, and what is logged. -/
def serveOne (collector : Collector) (request : Request) :
    Option Response × Collector × List LogLine :=
  let connection := collector.accepted + 1
  let (collector, effects) :=
    collector.follow (.accept none :: requestEvents connection request ++ [.close connection none])
  let response := (effects.findSome? CollectorEffect.response?).map (Response.asSent request)
  (response, collector, effects.filterMap CollectorEffect.line?)

/-- Shuts a collector down while a connection is open over which some bytes have come, if there is one. -/
def shutDown (collector : Collector) (held : Option Bytes) : Collector × List LogLine :=
  let connection := collector.accepted + 1
  let (before, ending) : List CollectorEvent × List CollectorEvent :=
    match held with
    | none => ([], [])
    | some bytes =>
      let (events, ends) := eventsOf connection bytes.length bytes
      (.accept none :: events, if ends then [.close connection none] else [])
  let (ended, effects) := collector.follow (before ++ .shutdown :: ending ++ endingEvents)
  (ended, effects.filterMap CollectorEffect.line?)

end Collector

end Telemetry
