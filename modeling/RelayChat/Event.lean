import RelayChat.Session

/-!
# Events

What happens to connections, as it is told to whoever answers them.
-/

namespace RelayChat

/-- What has happened to a connection. -/
inductive Event where
  /-- It has come. -/
  | connect (id : Handle)
  /-- It has sent a line, which is given without its line end. -/
  | line (id : Handle) (text : String)
  /-- It is gone. -/
  | drop (id : Handle)
deriving DecidableEq, Repr

namespace Event

/-- The connection to which it has happened. -/
def handle : Event → Handle
  | connect id | line id _ | drop id => id

end Event

end RelayChat
