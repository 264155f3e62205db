import RelayChat.Connection
import RelayChat.Outgoing
import Std.Data.ExtTreeMap

/-!
# The switchboard

The table of all open connections, and the ones among them that wait for a
change to be applied: new output to watch for, or a request to close. Calls only
queue and mark; what they ask for happens when the changes are applied. Output
for a connection that is unknown or is to be closed is ignored.
-/

namespace RelayChat

/-- The open connections, and those that wait for a change to be applied. -/
structure Switchboard where
  /-- The open connections. -/
  connections : Std.ExtTreeMap Handle Connection
  /-- The connections that wait, in the order of their changes, each once. -/
  pending : List Handle
deriving DecidableEq

namespace Switchboard

/-- No connections. -/
def empty : Switchboard := ⟨∅, []⟩

/-- The connection of a handle. -/
def get? (board : Switchboard) (id : Handle) : Option Connection :=
  board.connections[id]?

/-- How many connections are open. -/
def count (board : Switchboard) : Nat :=
  board.connections.size

/-- Puts a connection into the table, or in the place of its former state. -/
def put (board : Switchboard) (id : Handle) (c : Connection) : Switchboard :=
  { board with connections := board.connections.insert id c }

/-- Takes a connection out of the table. -/
def remove (board : Switchboard) (id : Handle) : Switchboard :=
  { board with connections := board.connections.erase id }

/-- Lets a connection wait for a change to be applied. -/
def mark (board : Switchboard) (id : Handle) : Switchboard :=
  if board.pending.contains id then board else { board with pending := board.pending ++ [id] }

/-- Whether a connection is open and not to be closed. -/
def accepts (board : Switchboard) (id : Handle) : Bool :=
  (board.get? id).any fun c => !c.closing

/-- Queues a text for one connection. -/
def send (board : Switchboard) (id : Handle) (text : String) : Switchboard :=
  match board.get? id with
  | none => board
  | some c =>
    if c.closing then board
    else
      let queued := board.put id (c.queue (LossyUtf8.encode text))
      if !c.hasOutput && !text.isEmpty then queued.mark id else queued

/-- Queues a text for every connection, in the order of the handles. Another order would queue
the same and let the same connections wait, only in that order, on which nothing relies. -/
def broadcast (board : Switchboard) (text : String) : Switchboard :=
  board.connections.keys.foldl (fun board id => board.send id text) board

/-- Asks for a connection to be closed. -/
def disconnect (board : Switchboard) (id : Handle) : Switchboard :=
  match board.get? id with
  | none => board
  | some c => if c.closing then board else (board.put id { c with closing := true }).mark id

/-- Does what a call asks for. -/
def carryOut (board : Switchboard) : Outgoing String → Switchboard
  | .send id text => board.send id text
  | .broadcast text => board.broadcast text
  | .disconnect id => board.disconnect id

end Switchboard

end RelayChat
