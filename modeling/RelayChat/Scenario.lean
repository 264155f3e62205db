import RelayChat.Loopback
import RelayChat.Multiplexer

/-!
# Clients and a server, step by step

A scenario runs a server and its clients on one machine. Each step does one
thing, at the server or at a client; then the server waits for activity until
nothing more happens, and all clients read what there is for them. What can be
observed of a step is its result, what each client received, which clients saw
their connections end, and the events that were raised.
-/

namespace RelayChat

/-- A client with a connection that the server has not closed. -/
structure Client where
  /-- The handle under which the server serves it. -/
  handle : Handle
  /-- Whether it has closed its side. -/
  left : Bool
deriving DecidableEq, Repr

/-- What a client does after writing. -/
inductive Ending where
  /-- It stays. -/
  | stays
  /-- It closes the connection. -/
  | closes
  /-- It writes no more, and still reads. -/
  | shutsDown
deriving DecidableEq, Repr

/-- A step. -/
inductive Step where
  /-- The server begins to listen. -/
  | activate
  /-- The server looks once for activity. -/
  | poll
  /-- The server closes everything. -/
  | deactivate
  /-- How much is logged is chosen. -/
  | setVerbosity (level : Nat)
  /-- A client of a number connects. -/
  | connect (client : Nat)
  /-- A client writes. -/
  | write (client : Nat) (bytes : List UInt8) (ending : Ending)
  /-- Calls are made at the server. -/
  | call (calls : List (Outgoing String))
deriving DecidableEq, Repr

/-- What a step results in. -/
inductive StepResult where
  /-- It was done. -/
  | ok
  /-- The server gave an error. -/
  | failed (error : ServerError)
  /-- Nothing listens. -/
  | refused
  /-- The client has no connection. -/
  | closed
  /-- The client reaches no network, for a reason that the system gives. -/
  | unreachable (source : String)
deriving DecidableEq, Repr

/-- What is seen of a step. -/
structure Observation where
  /-- What it resulted in. -/
  result : StepResult
  /-- What each client received that received anything. -/
  received : List (Nat × List UInt8)
  /-- The clients that saw their connections end. -/
  ended : List Nat
  /-- The events with the number of connections at each. -/
  events : List (Event × Nat)
  /-- How many connections are open afterwards. -/
  count : Nat
  /-- Whether the server is active afterwards. -/
  active : Bool
  /-- Whether it listens afterwards. -/
  listening : Bool
deriving DecidableEq, Repr

/-- A server with its clients. -/
structure Scenario (σ : Type) where
  /-- The server. -/
  server : Multiplexer σ Loopback
  /-- The clients with connections, by their numbers. -/
  clients : Std.ExtTreeMap Nat Client

namespace Scenario

/-- The server lets things happen until nothing more does, in at most so many
waits. -/
def quiesce (handler : Handler σ) : Nat → Multiplexer σ Loopback → Multiplexer σ Loopback
  | 0, m => m
  | waits + 1, m =>
    if !m.isActive || m.host.isQuiet then m
    else quiesce handler waits (m.wait Loopback.host handler).1

/-- More waits than one step needs: what a client has done is read in one, and
what is then written goes out in the next, which starts nothing new. -/
def waits : Nat := 4

/-- The result of a method of the server. -/
def resultOf : Except ServerError Unit → StepResult
  | .ok () => .ok
  | .error e => .failed e

/-- Changes the state of the machine. -/
def onHost (s : Scenario σ) (f : Loopback → Loopback) : Scenario σ :=
  { s with server := { s.server with host := f s.server.host } }

/-- A client connects. One that has the number already gives up its connection. -/
def connect (s : Scenario σ) (number : Nat) : Scenario σ × StepResult :=
  if s.server.listener.isNone then (s, .refused)
  else if !s.server.host.up then (s, .unreachable SystemReason.networkUnreachable.render)
  else
    let s := match s.clients[number]? with
      | some former => s.onHost (·.write former.handle [] true)
      | none => s
    let handle := s.server.nextHandle
    ({ s.onHost (·.connect handle) with
        clients := s.clients.insert number ⟨handle, false⟩ }, .ok)

/-- A client writes. -/
def write (s : Scenario σ) (number : Nat) (bytes : List UInt8) (ending : Ending) :
    Scenario σ × StepResult :=
  match s.clients[number]? with
  | none => (s, .closed)
  | some client =>
    if client.left then (s, .closed)
    else
      let written := s.onHost (·.write client.handle bytes (ending != .stays))
      ({ written with
          clients := s.clients.insert number { client with left := ending == .closes } }, .ok)

/-- Does what a step says, before the server lets things happen. -/
def act (handler : Handler σ) (s : Scenario σ) : Step → Scenario σ × StepResult
  | .activate =>
    let (server, result) := s.server.activate Loopback.host
    ({ s with server }, resultOf result)
  | .poll =>
    let (server, result) := s.server.wait Loopback.host handler
    ({ s with server }, resultOf result)
  | .deactivate => ({ s with server := s.server.deactivate }, .ok)
  | .setVerbosity level =>
    let (server, result) := s.server.setVerbosity level
    ({ s with server }, resultOf result)
  | .connect number => s.connect number
  | .write number bytes ending => s.write number bytes ending
  | .call calls => ({ s with server := s.server.callAll Loopback.host handler calls }, .ok)

/-- The bytes written to a connection, in order. -/
def writtenTo (id : Handle) (journal : List Entry) : List UInt8 :=
  journal.flatMap fun
    | .wrote who bytes => if who = id then bytes else []
    | _ => []

/-- Whether a connection was closed. -/
def wasClosed (id : Handle) (journal : List Entry) : Bool :=
  journal.any fun
    | .closed who _ _ => who = id
    | _ => false

/-- The events raised, in order. -/
def eventsOf (journal : List Entry) : List (Event × Nat) :=
  journal.filterMap fun
    | .raised event count => some (event, count)
    | _ => none

/-- One step, and what is seen of it. Connections that have ended are forgotten. -/
def step (handler : Handler σ) (s : Scenario σ) (step : Step) : Scenario σ × Observation :=
  let (acted, result) :=
    act handler { s with server := { s.server with journal := [] } } step
  let server := quiesce handler waits acted.server
  let journal := server.journal.reverse
  let watching := acted.clients.toList.filter fun entry => !entry.2.left
  let received := watching.filterMap fun (number, client) =>
    let bytes := writtenTo client.handle journal
    if bytes.isEmpty then none else some (number, bytes)
  let ended := (watching.filter fun entry => wasClosed entry.2.handle journal).map Prod.fst
  let clients := acted.clients.filter fun _ client => !wasClosed client.handle journal
  let host := server.host.forget fun id => wasClosed id journal
  ({ server := { server with host }, clients },
    { result, received, ended, events := eventsOf journal, count := server.board.count,
      active := server.isActive, listening := server.listener.isSome })

end Scenario

end RelayChat
