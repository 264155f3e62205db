import RelayChat.Connection
import RelayChat.Ipv4
import RelayChat.Session

/-!
# The system underneath

What the multiplexer asks of the system and what the system may answer. A
`Host` answers from a state of its own, so that every order of arrivals, every
division of bytes and every failure is the behaviour of some host. Where the
multiplexer tries again and again, the host gives all answers of one series at
once; the series ends where there is nothing more for now.
-/

namespace RelayChat

/-- The most bytes that one attempt to read gives. -/
def receiveSize : Nat := 512

/-- Bytes of one attempt to read. -/
structure Piece where
  /-- The bytes. -/
  bytes : List UInt8
  /-- There are no more of them than the buffer holds. -/
  length_le : bytes.length ≤ receiveSize
deriving DecidableEq, Repr

/-- What the system answers to one attempt to read. -/
inductive ReadAnswer where
  /-- Bytes have arrived. -/
  | received (piece : Piece)
  /-- The attempt was interrupted and may be repeated. -/
  | interrupted
  /-- The other side has finished. -/
  | finished
  /-- The connection is broken. -/
  | failed
deriving DecidableEq, Repr

/-- What the system answers to one attempt to accept a connection. -/
inductive AcceptAnswer where
  /-- A connection has come, and the poller watches it or refuses to. -/
  | arrived (watched : Bool)
  /-- The attempt was interrupted and may be repeated. -/
  | interrupted
  /-- No connection could be accepted. -/
  | failed
deriving DecidableEq, Repr

/-- Which socket is ready, and for what. -/
structure Readiness where
  /-- The connection, or the listener's own handle. -/
  id : Handle
  /-- There is something to read. -/
  readable : Bool
  /-- There is room to write. -/
  writable : Bool
  /-- The other side has finished, or the connection is broken. -/
  hangup : Bool
deriving DecidableEq, Repr

/-- What the system answers to waiting for activity. -/
inductive PollAnswer where
  /-- These sockets are ready; none of them if the time has run out. -/
  | ready (sockets : List Readiness)
  /-- The wait was interrupted. -/
  | interrupted
  /-- The wait failed, for a reason that the system gives. -/
  | failed (source : String)
deriving DecidableEq, Repr

/-- A system, with states of type `ε`. -/
structure Host (ε : Type) where
  /-- Binds an endpoint, and gives the one that was bound or the reason against it. -/
  bind : ε → Endpoint → Except String Endpoint × ε
  /-- Waits for activity. -/
  poll : ε → PollAnswer × ε
  /-- Accepts connections until there are no more. -/
  accept : ε → List AcceptAnswer × ε
  /-- Reads from a connection until there is no more. -/
  read : ε → Handle → List ReadAnswer × ε
  /-- Writes bytes to a connection until they are gone or no more are taken. -/
  write : ε → Handle → List UInt8 → List WriteAnswer × ε
  /-- Watches a connection for room to write or no longer does; `false` if the
  poller refuses. -/
  arm : ε → Handle → Bool → Bool × ε

end RelayChat
