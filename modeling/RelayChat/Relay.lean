import RelayChat.Dispatch
import RelayChat.Event

/-!
# The relay

The relay as a machine: connections come, send lines and go, and each such
event gives a new directory and the calls to make. A connection without a
session is not heard, and when one that was logged in goes, everybody left
learns of it.
-/

namespace RelayChat

namespace Relay

/-- Said of a connection that goes without having given a reason. -/
def defaultFarewell : String := "Client disconnected"

/-- What the others are told when a session that was logged in is gone. -/
def farewell (session : Session) : Message :=
  (Message.ofBody (.quit (session.farewell.getD defaultFarewell))).withOrigin session.origin

/-- A connection has come. -/
def connect (d : Directory) (id : Handle) : Directory × List (Outgoing Message) :=
  (d.openSession id, [])

/-- A connection has sent a line. -/
def receive (site : Site) (d : Directory) (id : Handle) (text : String) :
    Directory × List (Outgoing Message) :=
  match d.session? id with
  | none => (d, [])
  | some _ => Dispatch.line site d id text

/-- A connection is gone. -/
def drop (d : Directory) (id : Handle) : Directory × List (Outgoing Message) :=
  match d.session? id with
  | none => (d, [])
  | some session =>
    (d.closeSession id, if session.loggedIn then [.broadcast (farewell session)] else [])

/-- The effects of one event. -/
def step (site : Site) (d : Directory) : Event → Directory × List (Outgoing Message)
  | .connect id => connect d id
  | .line id text => receive site d id text
  | .drop id => drop d id

/-- The directory after a series of events. -/
def run (site : Site) (d : Directory) (events : List Event) : Directory :=
  events.foldl (fun d event => (step site d event).1) d

end Relay

end RelayChat
