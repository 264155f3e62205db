import RelayChat.CivilTime
import RelayChat.Directory
import RelayChat.Outgoing
import RelayChat.Refusal

/-!
# What a command does

The fixed facts about a relay, and the result that every command has: the
directory afterwards, the calls it made, and a refusal if there was one. The
calls carry messages, not text, so that what is announced can be told from how
it is written.
-/

namespace RelayChat

/-- What is fixed while the relay runs. -/
structure Site where
  /-- The relay's name, which is the origin of all its replies. -/
  name : String
  /-- The name of the network, shown when a user logs in. -/
  network : String
  /-- The relay's version. -/
  version : String
  /-- When the relay was started, in seconds since the beginning of 1970. -/
  created : Int
  /-- What a connection must say to log in. -/
  password : String
deriving DecidableEq, Repr

namespace Site

/-- The version of this relay. -/
def standardVersion : String := "plexircd-0.1.0"

/-- The relay's name as the origin of a message. -/
def origin (site : Site) : Origin :=
  .server site.name

/-- A message of the relay's own to one connection. -/
def reply (site : Site) (id : Handle) (message : Message) : Outgoing Message :=
  .send id (message.withOrigin site.origin)

end Site

/-- What a command did. -/
structure Outcome where
  /-- The directory afterwards. -/
  directory : Directory
  /-- The calls made, in order. -/
  calls : List (Outgoing Message)
  /-- Why the command was refused; `none` if it was carried out. -/
  refusal : Option Refusal
deriving DecidableEq

namespace Outcome

/-- The command was carried out. -/
def done (directory : Directory) (calls : List (Outgoing Message)) : Outcome :=
  ⟨directory, calls, none⟩

/-- The command was refused and changed nothing. -/
def refused (directory : Directory) (refusal : Refusal) : Outcome :=
  ⟨directory, [], some refusal⟩

end Outcome

end RelayChat
