import Telemetry.Agent.Error
import Telemetry.Agent.Sender
import Telemetry.Collector.Basic
import Telemetry.Http.Connection
import Telemetry.Shell.Files
import Std.Async.DNS
import Std.Async.Signal
import Std.Async.TCP
import Std.Async.Timer
import Std.Async.UDP

/-!
# The network

Connections carry the bytes of requests and responses; what these bytes mean is told by `Request.read`,
`Response.wire`, `Request.wire` and `readAnswer`.
-/

namespace Telemetry.Shell

open Std.Async Std.Net

/-- An address and a port. -/
def socketAddress (port : Nat) : IPAddr → SocketAddress
  | .v4 address => .v4 ⟨address, port.toUInt16⟩
  | .v6 address => .v6 ⟨address, port.toUInt16⟩

/-- The addresses of a host at a port. -/
def addressesOf (host : String) (port : Nat) : Async (List SocketAddress) := do
  let addresses ← DNS.getAddrInfo host (toString port)
  return addresses.toList.map (socketAddress port)

/-- Tries something with each of some addresses until it succeeds. -/
def firstOf {Result : Type} (attempt : SocketAddress → Async Result) :
    List SocketAddress → Async Result
  | [] => throw (IO.userError "no address")
  | [address] => attempt address
  | address :: others => do
    try attempt address
    catch _ => firstOf attempt others

/-- Listens at an address. -/
def listenAt (address : SocketAddress) : Async TCP.Socket.Server := do
  let server ← TCP.Socket.Server.mk
  server.bind address
  server.listen 1024
  return server

/-- Listens at the address that the settings name. -/
def listen (address : String) : Async (Except IoError TCP.Socket.Server) :=
  match Collector.listenAddress address with
  | .error cause => return .error cause
  | .ok (host, port) => do
    try
      return .ok (← firstOf listenAt (← addressesOf host port))
    catch cause =>
      return .error (failureOf cause)

/-- Connects to an address. -/
def connectTo (address : SocketAddress) : Async TCP.Socket.Client := do
  let client ← TCP.Socket.Client.mk
  client.connect address
  return client

/-- How many bytes are received at once. -/
def portion : UInt64 := 65536

/-- Receives bytes after `received` until so many have come or the connection has come to an end, and tells
whether it has. -/
partial def receiveAtLeast (client : TCP.Socket.Client) (least : Nat) (received : ByteArray) :
    Async (Bytes × Bool) := do
  if least ≤ received.size then
    return (received.toList, false)
  else
    match ← client.recv? portion with
    | some bytes => receiveAtLeast client least (received ++ bytes)
    | none => return (received.toList, true)

/-- Receives an answer. -/
partial def receiveAnswer (client : TCP.Socket.Client) (received : Bytes) (closed : Bool) :
    Async (Except SendError (Status × Bytes)) := do
  match readAnswer received closed with
  | .whole answer _ => return .ok answer
  | .malformed _ => return .error .noAnswer
  | .partly =>
    if closed then
      return .error .noAnswer
    else
      match ← client.recv? portion with
      | some bytes => receiveAnswer client (received ++ bytes.toList) false
      | none => receiveAnswer client received true

/-- Takes a message to the collector and brings its answer. There are no encrypted connections. -/
def exchange (post : Post) : Async (Except SendError (Status × Bytes)) := do
  if post.url.secure then
    return .error .noAnswer
  else
    try
      let client ← firstOf connectTo (← addressesOf post.url.host post.url.port)
      let request := Request.wire "POST" post.url.target
        (post.url.host ++ ":" ++ toString post.url.port) post.headers post.body
      client.send request.toByteArray
      receiveAnswer client [] false
    catch _ => return .error .noAnswer

/-- Does something that has to be done within some time. -/
def within {Result : Type} [Inhabited Result] (duration : Milliseconds) (late : Result)
    (action : Async Result) : Async Result :=
  Async.race action do
    sleep ⟨(duration : Int)⟩
    return late

/-- The address by which the machine is known to others. Nothing is sent to find it. -/
def ownAddress : IO (Option String) := do
  try
    let socket ← UDP.Socket.mk
    socket.connect (.v4 ⟨.ofParts 8 8 8 8, 80⟩)
    return some (← socket.getSockName).ipAddr.toString
  catch _ => return none

/-- Does something for each signal that comes to a waiter. -/
partial def attendSignal (waiter : Signal.Waiter) (action : Async Unit) : Async Unit := do
  discard <| await (← waiter.wait)
  action
  attendSignal waiter action

/-- Does something for each signal to stop, so that none of them ends the program by itself. -/
def onStop (action : Async Unit) : Async Unit := do
  let interrupt ← Signal.Waiter.mk .sigint true
  let terminate ← Signal.Waiter.mk .sigterm true
  background (attendSignal interrupt action)
  attendSignal terminate action

end Telemetry.Shell
