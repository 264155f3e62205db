import RelayChat.Event
import RelayChat.Host
import RelayChat.Switchboard
import RelayChat.Settings

/-!
# The multiplexer

One listening socket and all its connections, served in turn. Waiting gives the
sockets that are ready: connections are accepted, bytes are read and cut into
lines, lines are handed to a handler, and queued output is written. The handler
answers an event with calls, which only queue output and requests to close;
`settle` then applies them until nothing is left to apply. A connection that is
to be closed gets the rest of its output first and is not read any more.

The multiplexer keeps a journal of all it does. It is written for every handler
and every host.
-/

namespace RelayChat

/-- Answers events, with states of type `σ`. It also learns how many connections
are open at that moment. -/
structure Handler (σ : Type) where
  /-- The state after an event, and the calls made. -/
  react : σ → Nat → Event → σ × List (Outgoing String)

namespace Handler

/-- A handler that never answers. -/
def silent : Handler Unit := ⟨fun _ _ _ => ((), [])⟩

end Handler

/-- Why a connection was closed. -/
inductive Closing where
  /-- Its output had gone out after a request to close it. -/
  | finished
  /-- The other side had finished, or reading failed. -/
  | readEnded
  /-- The poller told that it had ended. -/
  | hungUp
  /-- Writing failed. -/
  | writeFailed
  /-- The poller refused to watch it. -/
  | unwatched
  /-- The server was deactivated. -/
  | deactivated
deriving DecidableEq, Repr

/-- Something that the multiplexer has done. -/
inductive Entry where
  /-- An event was raised, with so many connections open. -/
  | raised (event : Event) (count : Nat)
  /-- A call was made, by the handler or from outside. -/
  | called (call : Outgoing String)
  /-- Bytes were read. -/
  | received (id : Handle) (bytes : List UInt8)
  /-- Bytes were written. -/
  | wrote (id : Handle) (bytes : List UInt8)
  /-- Writing failed, and the output left was given up. -/
  | writeFailed (id : Handle)
  /-- A connection left the table, with so much output lost. -/
  | closed (id : Handle) (cause : Closing) (unsent : List UInt8)
deriving DecidableEq, Repr

/-- The server with its handler's state and the state of the system. -/
structure Multiplexer (σ ε : Type) where
  /-- Where to listen. -/
  listen : ListenSettings
  /-- Whether there is a poller. -/
  poller : Bool
  /-- The endpoint that is listened on. -/
  listener : Option Endpoint
  /-- The connections. -/
  board : Switchboard
  /-- The handler's state. -/
  state : σ
  /-- The system's state. -/
  host : ε
  /-- How much is logged. -/
  verbosity : Verbosity
  /-- The handle of the next connection. -/
  nextHandle : Handle
  /-- What was done, the last thing first. -/
  journal : List Entry

namespace Multiplexer

/-- The handle of the listening socket; connections have greater ones. -/
def listenerHandle : Handle := 0

/-- A server that is not active yet. -/
def create (listen : ListenSettings) (state : σ) (host : ε) : Multiplexer σ ε where
  listen := listen
  poller := false
  listener := none
  board := Switchboard.empty
  state := state
  host := host
  verbosity := Verbosity.standard
  nextHandle := listenerHandle + 1
  journal := []

/-- A server that listens on an endpoint already. -/
def listening (listen : ListenSettings) (bound : Endpoint) (state : σ) (host : ε) :
    Multiplexer σ ε :=
  { create listen state host with poller := true, listener := some bound }

/-- Whether the server is active. -/
def isActive (m : Multiplexer σ ε) : Bool :=
  m.poller

/-- Adds to the journal. -/
def record (m : Multiplexer σ ε) (entry : Entry) : Multiplexer σ ε :=
  { m with journal := entry :: m.journal }

/-- Carries out one call. -/
def call (m : Multiplexer σ ε) (c : Outgoing String) : Multiplexer σ ε :=
  { m with board := m.board.carryOut c }.record (.called c)

/-- Tells the handler of an event and carries out its calls. -/
def raise (handler : Handler σ) (m : Multiplexer σ ε) (event : Event) : Multiplexer σ ε :=
  let count := m.board.count
  let (state, calls) := handler.react m.state count event
  calls.foldl call ({ m with state := state }.record (.raised event count))

/-- Closes a connection at once and tells the handler. -/
def close (handler : Handler σ) (m : Multiplexer σ ε) (id : Handle) (cause : Closing) :
    Multiplexer σ ε :=
  match m.board.get? id with
  | none => m
  | some c =>
    raise handler ({ m with board := m.board.remove id }.record (.closed id cause c.outbound))
      (.drop id)

/-- Writes the output of a connection as far as the system takes it, and tells
whether that failed. -/
def flush (net : Host ε) (m : Multiplexer σ ε) (id : Handle) (c : Connection) :
    Multiplexer σ ε × Connection × Bool :=
  if c.outbound.isEmpty then (m, c, false)
  else
    let (answers, host) := net.write m.host id c.outbound
    let flushed := Connection.flush c.outbound answers
    let after := { c with outbound := flushed.left }
    let m := { m with host := host, board := m.board.put id after }
    let m := m.record (.wrote id flushed.written)
    (if flushed.failed then m.record (.writeFailed id) else m, after, flushed.failed)

/-- Has the poller watch a connection for room to write exactly when it has
output. -/
def watch (net : Host ε) (handler : Handler σ) (m : Multiplexer σ ε) (id : Handle)
    (c : Connection) : Multiplexer σ ε :=
  if c.hasOutput = c.watchesWrites || !m.poller then m
  else
    let (accepted, host) := net.arm m.host id c.hasOutput
    let m := { m with host := host }
    if accepted then { m with board := m.board.put id { c with watchesWrites := c.hasOutput } }
    else close handler m id .unwatched

/-- Applies the changes of one connection. -/
def settleOne (net : Host ε) (handler : Handler σ) (m : Multiplexer σ ε) (id : Handle) :
    Multiplexer σ ε :=
  match m.board.get? id with
  | none => m
  | some c =>
    if c.closing then
      let (m, c, failed) := flush net m id c
      if c.hasOutput then watch net handler m id c
      else close handler m id (if failed then .writeFailed else .finished)
    else watch net handler m id c

/-- Applies the changes of all connections that wait. Closing a connection may
let others wait anew. -/
def settlePass (net : Host ε) (handler : Handler σ) (m : Multiplexer σ ε) : Multiplexer σ ε :=
  m.board.pending.foldl (settleOne net handler) { m with board := { m.board with pending := [] } }

/-- Applies changes until none are left, in at most so many passes. -/
def settleWithin (net : Host ε) (handler : Handler σ) : Nat → Multiplexer σ ε → Multiplexer σ ε
  | 0, m => m
  | passes + 1, m =>
    if m.board.pending.isEmpty then m
    else settleWithin net handler passes (settlePass net handler m)

/-- Applies changes until none are left. Every pass but the last closes a
connection, so that the passes are no more than the connections and two. -/
def settle (net : Host ε) (handler : Handler σ) (m : Multiplexer σ ε) : Multiplexer σ ε :=
  settleWithin net handler (m.board.count + 2) m

/-- Takes in a connection and tells the handler. -/
def takeConnection (net : Host ε) (handler : Handler σ) (m : Multiplexer σ ε) : Multiplexer σ ε :=
  let id := m.nextHandle
  settle net handler
    (raise handler { m with nextHandle := id + 1, board := m.board.put id Connection.fresh }
      (.connect id))

/-- Deals with the answers to attempts to accept connections. A connection that
the poller refuses to watch costs a handle and is dropped. -/
def acceptEach (net : Host ε) (handler : Handler σ) :
    List AcceptAnswer → Multiplexer σ ε → Multiplexer σ ε
  | [], m => m
  | .failed :: _, m => m
  | .interrupted :: answers, m => acceptEach net handler answers m
  | .arrived watched :: answers, m =>
    if watched then acceptEach net handler answers (takeConnection net handler m)
    else acceptEach net handler answers { m with nextHandle := m.nextHandle + 1 }

/-- Accepts all connections that have come. -/
def acceptArrivals (net : Host ε) (handler : Handler σ) (m : Multiplexer σ ε) : Multiplexer σ ε :=
  if m.listener.isNone then m
  else
    let (answers, host) := net.accept m.host
    acceptEach net handler answers { m with host := host }

/-- Hands lines to the handler, as long as the connection is open and not to be
closed. -/
def dispatch (net : Host ε) (handler : Handler σ) (id : Handle) :
    List String → Multiplexer σ ε → Multiplexer σ ε
  | [], m => m
  | line :: lines, m =>
    if m.board.accepts id then
      dispatch net handler id lines (settle net handler (raise handler m (.line id line)))
    else m

/-- Takes in bytes and hands the lines that they complete to the handler. -/
def takeIn (net : Host ε) (handler : Handler σ) (m : Multiplexer σ ε) (id : Handle)
    (c : Connection) (bytes : List UInt8) : Multiplexer σ ε :=
  let (c, lines) := c.receive bytes
  dispatch net handler id lines
    ({ m with board := m.board.put id c }.record (.received id bytes))

/-- Deals with the answers to attempts to read, as long as the connection is
open and not to be closed. -/
def readEach (net : Host ε) (handler : Handler σ) (id : Handle) :
    List ReadAnswer → Multiplexer σ ε → Multiplexer σ ε
  | [], m => m
  | answer :: answers, m =>
    match m.board.get? id with
    | none => m
    | some c =>
      if c.closing then m
      else match answer with
        | .received piece => readEach net handler id answers (takeIn net handler m id c piece.bytes)
        | .interrupted => readEach net handler id answers m
        | .finished | .failed => close handler m id .readEnded

/-- Reads all that has arrived on a connection. -/
def readAll (net : Host ε) (handler : Handler σ) (m : Multiplexer σ ε) (id : Handle) :
    Multiplexer σ ε :=
  if m.board.accepts id then
    let (answers, host) := net.read m.host id
    readEach net handler id answers { m with host := host }
  else m

/-- Writes the output of a connection that has room for it. -/
def writeAll (net : Host ε) (handler : Handler σ) (m : Multiplexer σ ε) (id : Handle) :
    Multiplexer σ ε :=
  match m.board.get? id with
  | none => m
  | some c =>
    let (m, _, failed) := flush net m id c
    if failed then close handler m id .writeFailed
    else { m with board := m.board.mark id }

/-- Deals with one socket that is ready. What a connection that has ended still
sent is read before it is closed. -/
def serve (net : Host ε) (handler : Handler σ) (m : Multiplexer σ ε) (socket : Readiness) :
    Multiplexer σ ε :=
  if socket.id = listenerHandle then acceptArrivals net handler m
  else
    let m := if socket.readable || socket.hangup then readAll net handler m socket.id else m
    if socket.hangup then close handler m socket.id .hungUp
    else if socket.writable then writeAll net handler m socket.id
    else m

/-- Waits for activity and deals with it. -/
def wait (net : Host ε) (handler : Handler σ) (m : Multiplexer σ ε) :
    Multiplexer σ ε × Except ServerError Unit :=
  if !m.poller then (m, .error .notActive)
  else
    let (answer, host) := net.poll m.host
    let m := { m with host := host }
    match answer with
    | .interrupted => (m, .ok ())
    | .failed source => (m, .error (.poll source))
    | .ready sockets =>
      (settle net handler (sockets.foldl (serve net handler) m), .ok ())

/-- Begins to listen, unless the server is active already. -/
def activate (net : Host ε) (m : Multiplexer σ ε) : Multiplexer σ ε × Except ServerError Unit :=
  if m.poller then (m, .ok ())
  else match m.listen.endpoint with
    | .error e => (m, .error e)
    | .ok wanted =>
      match net.bind m.host wanted with
      | (.error source, host) => ({ m with host := host }, .error (.bind wanted.render source))
      | (.ok bound, host) =>
        ({ m with host := host, poller := true, listener := some bound }, .ok ())

/-- Closes everything at once without telling the handler. -/
def deactivate (m : Multiplexer σ ε) : Multiplexer σ ε :=
  if !m.poller then m
  else
    let closed := m.board.connections.toList.map fun entry =>
      Entry.closed entry.1 .deactivated entry.2.outbound
    { m with poller := false, listener := none, board := Switchboard.empty,
             journal := closed.reverse ++ m.journal }

/-- Chooses how much is logged. -/
def setVerbosity (m : Multiplexer σ ε) (level : Nat) :
    Multiplexer σ ε × Except ServerError Unit :=
  match Verbosity.ofLevel level with
  | .ok verbosity => ({ m with verbosity := verbosity }, .ok ())
  | .error e => (m, .error e)

/-- Makes calls from outside the handler and applies them. -/
def callAll (net : Host ε) (handler : Handler σ) (m : Multiplexer σ ε)
    (calls : List (Outgoing String)) : Multiplexer σ ε :=
  settle net handler (calls.foldl call m)

end Multiplexer

end RelayChat
