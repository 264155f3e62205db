import RelayChat.Channel
import RelayChat.Session
import Std.Data.ExtTreeMap

/-!
# The directory

Everything that changes while the relay runs: the session of every connection,
who holds which nickname, and the channels. Channels refer to users by
nickname, nicknames refer to connections by handle, and a reference that leads
nowhere is simply not found.
-/

namespace RelayChat

/-- Sessions, nicknames and channels. -/
structure Directory where
  /-- The session of each connection. -/
  sessions : Std.ExtTreeMap Handle Session
  /-- The connection that holds each nickname. -/
  holders : Std.ExtTreeMap String Handle
  /-- The channels by name. -/
  channels : Std.ExtTreeMap String Channel
deriving DecidableEq

namespace Directory

/-- The directory before the first connection. -/
def empty : Directory := ⟨∅, ∅, ∅⟩

/-- The session of a connection. -/
def session? (d : Directory) (id : Handle) : Option Session :=
  d.sessions[id]?

/-- The channel of a name. -/
def channel? (d : Directory) (name : String) : Option Channel :=
  d.channels[name]?

/-- The connection that holds a nickname. -/
def holder? (d : Directory) (nickname : String) : Option Handle :=
  d.holders[nickname]?

/-- The nickname that a connection holds. -/
def nickname? (d : Directory) (id : Handle) : Option String :=
  (d.session? id).bind Session.nickname

/-- The name by which a connection is addressed in replies. -/
def address (d : Directory) (id : Handle) : String :=
  ((d.session? id).map Session.address).getD Session.unset

/-- The origin of messages that come from a connection. -/
def origin (d : Directory) (id : Handle) : Origin :=
  ((d.session? id).map Session.origin).getD (.user Session.unset Session.unset Session.unset)

/-- Whether a connection is logged in. -/
def isLoggedIn (d : Directory) (id : Handle) : Bool :=
  (d.session? id).any Session.loggedIn

/-- Whether somebody of that nickname is on the channel of that name. -/
def isOnChannel (d : Directory) (channel nickname : String) : Bool :=
  (d.channel? channel).any (Channel.isMember · nickname)

/-- Opens a fresh session for a connection, in place of any that it had. -/
def openSession (d : Directory) (id : Handle) : Directory :=
  { d with sessions := d.sessions.insert id Session.fresh }

/-- Changes the session of a connection, if it has one. -/
def updateSession (d : Directory) (id : Handle) (f : Session → Session) : Directory :=
  { d with sessions := d.sessions.modify id f }

/-- Puts a channel in the place of the one of its name. -/
def putChannel (d : Directory) (channel : Channel) : Directory :=
  { d with channels := d.channels.insert channel.name channel }

/-- Changes a channel, if it exists. -/
def updateChannel (d : Directory) (name : String) (f : Channel → Channel) : Directory :=
  { d with channels := d.channels.modify name f }

/-- Frees a nickname and gives `new` to its former holder on every channel. -/
def renameEverywhere (d : Directory) (old new : String) : Directory :=
  { d with
    holders := d.holders.erase old
    channels := d.channels.map fun _ channel => channel.rename old new }

/-- Gives a connection a nickname that nobody holds: its session, the holders
and every channel it is on change together. Nothing changes for a connection
without a session. -/
def takeNickname (d : Directory) (id : Handle) (new : String) : Directory :=
  match d.session? id with
  | none => d
  | some session =>
    let renamed := match session.nickname with
      | some old => d.renameEverywhere old new
      | none => d
    { renamed with
      sessions := renamed.sessions.insert id { session with nickname := some new }
      holders := renamed.holders.insert new id }

/-- What is left of a channel without a nickname; `none` when nobody is. -/
def leave? (nickname : String) (channel : Channel) : Option Channel :=
  let left := channel.remove nickname
  if left.isEmpty then none else some left

/-- Takes a nickname off one channel, and removes the channel if nobody is on
it any more. -/
def leaveChannel (d : Directory) (channel nickname : String) : Directory :=
  { d with channels := d.channels.alter channel (Option.bind · (leave? nickname)) }

/-- Takes a nickname off all channels, and removes those that nobody is on. -/
def leaveAll (d : Directory) (nickname : String) : Directory :=
  { d with channels := d.channels.filterMap fun _ channel => leave? nickname channel }

/-- Frees a nickname if the connection holds it. -/
def releaseNickname (d : Directory) (id : Handle) (nickname : String) : Directory :=
  if d.holder? nickname = some id then { d with holders := d.holders.erase nickname } else d

/-- Forgets a connection: its nickname, its places on channels, its session. -/
def closeSession (d : Directory) (id : Handle) : Directory :=
  match d.session? id with
  | none => d
  | some session =>
    let without := { d with sessions := d.sessions.erase id }
    match session.nickname with
    | none => without
    | some nickname => (without.releaseNickname id nickname).leaveAll nickname

/-- The connections of a channel's members, in the order of their nicknames,
less one that is left out. -/
def recipients (d : Directory) (channel : Channel) (without : Option Handle) : List Handle :=
  (channel.members.toList.filterMap d.holder?).filter fun id => some id != without

end Directory

end RelayChat
