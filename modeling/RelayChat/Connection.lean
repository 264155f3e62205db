import RelayChat.LineFramer

/-!
# One connection

The multiplexer's side of one connection: bytes that have arrived and do not
make a line yet, bytes that still have to go out, whether the poller watches
for room to write, and whether the connection is to be closed. The system
answers every attempt to write; a burst of attempts ends when the output is
gone, when the system takes no more, or when an attempt fails.
-/

namespace RelayChat

/-- What the system answers to one attempt to write. A list of answers that ends
before the output is gone means that the system takes no more for now. -/
inductive WriteAnswer where
  /-- So many bytes were taken. -/
  | accepted (count : Nat)
  /-- The attempt was interrupted and may be repeated. -/
  | interrupted
  /-- The connection is broken. -/
  | failed
deriving DecidableEq, Repr

/-- The multiplexer's side of a connection. -/
structure Connection where
  /-- Bytes that have arrived and are not part of a complete line yet. -/
  inbound : List UInt8
  /-- Cuts the bytes that arrive into lines. -/
  framer : Framer
  /-- Bytes that still have to go out. -/
  outbound : List UInt8
  /-- Whether the poller watches for room to write. -/
  watchesWrites : Bool
  /-- Whether the connection is to be closed when its output has gone out. -/
  closing : Bool
deriving DecidableEq, Repr

namespace Connection

/-- A connection that has just been accepted. -/
def fresh : Connection where
  inbound := []
  framer := Framer.standard
  outbound := []
  watchesWrites := false
  closing := false

/-- The connection with more bytes arrived, and the complete lines taken off. -/
def receive (c : Connection) (bytes : List UInt8) : Connection × List String :=
  let drained := c.framer.drain (c.inbound ++ bytes)
  ({ c with inbound := drained.buffer, framer := drained.framer }, Framer.lines drained.found)

/-- The connection with more bytes to go out. -/
def queue (c : Connection) (bytes : List UInt8) : Connection :=
  { c with outbound := c.outbound ++ bytes }

/-- Whether something still has to go out. -/
def hasOutput (c : Connection) : Bool :=
  !c.outbound.isEmpty

/-- What a burst of writes has done. -/
structure Flushed where
  /-- The bytes that are left. -/
  left : List UInt8
  /-- The bytes that were taken. -/
  written : List UInt8
  /-- Whether an attempt failed; what was left is then given up. -/
  failed : Bool
deriving DecidableEq, Repr

/-- Writes until the bytes are gone, the answers end, or an attempt fails. An
attempt of which nothing is taken counts as failed. -/
def flush : List UInt8 → List WriteAnswer → Flushed
  | [], _ => ⟨[], [], false⟩
  | bytes, [] => ⟨bytes, [], false⟩
  | bytes, .interrupted :: answers => flush bytes answers
  | _, .failed :: _ => ⟨[], [], true⟩
  | _, .accepted 0 :: _ => ⟨[], [], true⟩
  | bytes, .accepted (count + 1) :: answers =>
    let rest := flush (bytes.drop (count + 1)) answers
    { rest with written := bytes.take (count + 1) ++ rest.written }

end Connection

end RelayChat
