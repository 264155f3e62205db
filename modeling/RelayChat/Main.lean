import RelayChat.RelayHandler
import RelayChat.Scenario
import RelayChat.Startup
import Std.Async.TCP
import Std.Sync.Channel
import Std.Time.Zoned

/-!
# The program

The command line of the relay: it reads the settings, starts as `Start.run`
decides, and then lets the clients that come to its socket take part in a
scenario, one step for each thing that a client does. This module only moves
bytes, texts and the time of day between the system and the definitions of the
other modules.
-/

namespace RelayChat.Program

open Std.Async TCP

/-- The number of a reason, which the system gives with or without a sign. -/
def numberOf (code : UInt32) : Nat :=
  if code < 0x80000000 then code.toNat else (0 - code).toNat

/-- The reason why the system refused something, in its own words. -/
def reasonOf : IO.Error → String
  | .noFileOrDirectory _ code words | .permissionDenied _ code words
  | .inappropriateType _ code words | .invalidArgument _ code words
  | .resourceExhausted _ code words | .noSuchThing _ code words
  | .alreadyExists _ code words | .resourceBusy code words
  | .unsupportedOperation code words | .otherError code words =>
    (SystemReason.ofNumber (numberOf code) words).render
  | e => toString e

/-- What an action gives, or why the system refused it. -/
def attempt (action : IO α) : IO (Except String α) := do
  match ← action.toBaseIO with
  | .ok a => return .ok a
  | .error e => return .error (reasonOf e)

/-- The time: seconds since the beginning of 1970, and microseconds. -/
def clock : IO (Int × Nat) := do
  let now ← Std.Time.Timestamp.now
  let nanos := now.toNanosecondsSinceUnixEpoch.val
  return (nanos.fdiv 1000000000, (nanos.fmod 1000000000).toNat / 1000)

/-- Writes a line of the log. -/
def log (line : LogLine) : IO Unit := do
  let (seconds, micros) ← clock
  IO.println (CivilTime.stamp seconds micros ++ " " ++ line.render)
  (← IO.getStdout).flush

/-- Listens on an endpoint, and gives the one that the system chose. -/
def listen (server : Socket.Server) (wanted : Endpoint) : IO Endpoint := do
  let ip := wanted.address
  server.bind (.v4 ⟨.ofParts ip.a ip.b ip.c ip.d, wanted.port⟩)
  server.listen 1024
  return { wanted with port := (← server.getSockName).port }

/-- What happens at the sockets. -/
inductive Notice where
  /-- A client has come. -/
  | came (socket : Socket.Client)
  /-- A client has sent bytes. -/
  | sent (client : Nat) (bytes : ByteArray)
  /-- A client sends no more. -/
  | ended (client : Nat)
  /-- No more clients will come, for a reason that the system gives. -/
  | stopped (reason : String)
deriving Inhabited

/-- Tells of every client that comes. -/
partial def acceptLoop (notices : Std.Channel.Sync Notice) (server : Socket.Server) : IO Unit := do
  match ← attempt server.accept.block with
  | .ok socket =>
    notices.send (.came socket)
    acceptLoop notices server
  | .error reason => notices.send (.stopped reason)

/-- Tells of everything that a client sends. -/
partial def readLoop (notices : Std.Channel.Sync Notice) (client : Nat) (socket : Socket.Client) :
    IO Unit := do
  match ← attempt (socket.recv? receiveSize.toUInt64).block with
  | .ok (some bytes) =>
    notices.send (.sent client bytes)
    readLoop notices client socket
  | .ok none | .error _ => notices.send (.ended client)

/-- Sends clients what a step has given them, and closes the connections that
the step has ended. -/
def deliver (sockets : Std.ExtTreeMap Nat Socket.Client) (seen : Observation) : IO Unit := do
  for (client, bytes) in seen.received do
    if let some socket := sockets[client]? then
      discard (socket.send ⟨bytes.toArray⟩).asTask
  for client in seen.ended do
    if let some socket := sockets[client]? then
      discard socket.shutdown.asTask

/-- The step that a notice makes, and the sockets with one that has come. A
client is called by the handle under which it is served. -/
def take (sockets : Std.ExtTreeMap Nat Socket.Client) (handle : Handle) :
    Notice → Step × Std.ExtTreeMap Nat Socket.Client
  | .came socket => (.connect handle, sockets.insert handle socket)
  | .sent client bytes => (.write client bytes.data.toList .stays, sockets)
  | .ended client => (.write client [] .shutsDown, sockets)
  | .stopped _ => (.deactivate, sockets)

/-- Serves clients until none can come any more, and gives the reason. -/
partial def serveLoop (site : Site) (notices : Std.Channel.Sync Notice)
    (sockets : Std.ExtTreeMap Nat Socket.Client) (s : Scenario Directory) : IO String := do
  let notice ← notices.recv
  let handle := s.server.nextHandle
  let (step, sockets) := take sockets handle notice
  let (s, seen) := s.step (Relay.handler site) step
  deliver sockets seen
  match notice with
  | .came socket => discard (IO.asTask (readLoop notices handle socket) .dedicated)
  | .stopped reason => return reason
  | _ => pure ()
  serveLoop site notices (sockets.filter fun client _ => !seen.ended.contains client) s

/-- Serves clients on a socket that listens. -/
def serve (server : Socket.Server) (settings : Settings) (bound : Endpoint) : IO StartError := do
  let (created, _) ← clock
  let site := settings.identity.site created
  let notices ← Std.Channel.Sync.new
  discard (IO.asTask (acceptLoop notices server) .dedicated)
  let machine := Loopback.idle true false
  let idle := Multiplexer.listening settings.listen bound Directory.empty machine
  let (m, _) := idle.setVerbosity settings.log.level.toNat
  let reason ← serveLoop site notices ∅ ⟨m, ∅⟩
  return .server (.poll reason)

/-- Ends with an error. -/
def fail (error : StartError) : IO UInt32 := do
  for line in error.report do
    IO.eprintln line
  return StartError.exitStatus.toUInt32

/-- Starts the relay with the settings at the path that the first argument
gives, and ends only with an error. -/
def run (args : List String) : IO UInt32 := do
  let path := Start.path args
  let file ← attempt do
    let bytes ← IO.FS.readBinFile path
    return bytes.data.toList
  let server ← Socket.Server.mk
  let answer ← match Start.wanted? file with
    | some wanted => attempt (listen server wanted)
    | none => pure (.error "")
  let start := Start.run path file fun _ => answer
  for line in start.log do
    log line
  match start.result with
  | .error error => fail error
  | .ok (settings, bound) => fail (← serve server settings bound)

end RelayChat.Program

/-- The program with its arguments. -/
def main (args : List String) : IO UInt32 :=
  RelayChat.Program.run args
