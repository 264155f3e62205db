import RelayChat.Session

/-!
# Outgoing calls

What is asked of the connections' side in the course of one event: sending a
payload to one connection or to all, and closing a connection once its output
has gone out. Calls that name an unknown connection have no effect there.
-/

namespace RelayChat

/-- A request to the connections' side with payloads of type `α`. -/
inductive Outgoing (α : Type) where
  /-- Send to one connection. -/
  | send (who : Handle) (payload : α)
  /-- Send to every connection. -/
  | broadcast (payload : α)
  /-- Close a connection after its output. -/
  | disconnect (who : Handle)
deriving DecidableEq, Repr

namespace Outgoing

/-- The same call with another form of payload. -/
def map (f : α → β) : Outgoing α → Outgoing β
  | send who payload => send who (f payload)
  | broadcast payload => broadcast (f payload)
  | disconnect who => disconnect who

/-- One payload for several connections, in order. -/
def sendAll (ids : List Handle) (payload : α) : List (Outgoing α) :=
  ids.map (send · payload)

end Outgoing

end RelayChat
