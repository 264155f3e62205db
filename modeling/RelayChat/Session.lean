import RelayChat.Message

/-!
# Sessions

What the relay knows of one connection on its way to being logged in and
afterwards. A session can log in when it has a nickname, a user name and a
correct password, and when a negotiation of capabilities, once begun, has ended.
-/

namespace RelayChat

/-- Names one connection. Handles are counted up and never used again. A machine counts them in
a word of 64 bits, but no server comes to accept the 2^64 connections that would overflow it. -/
abbrev Handle := Nat

/-- The handle as text. -/
def Handle.label (id : Handle) : String :=
  "c" ++ toString (id : Nat)

/-- What the relay knows of a connection. -/
structure Session where
  /-- The nickname that it holds. -/
  nickname : Option String
  /-- The user name that it gave. -/
  username : Option String
  /-- The host name that it gave. -/
  hostname : Option String
  /-- Whether it gave the right password. -/
  passwordGiven : Bool
  /-- Whether it ever asked about capabilities. -/
  capStarted : Bool
  /-- Whether it ended the negotiation of capabilities. -/
  capEnded : Bool
  /-- Whether it is logged in. -/
  loggedIn : Bool
  /-- The reason that it gave for leaving. -/
  farewell : Option String
deriving DecidableEq, Repr

namespace Session

/-- The session of a connection that has sent nothing yet. -/
def fresh : Session where
  nickname := none
  username := none
  hostname := none
  passwordGiven := false
  capStarted := false
  capEnded := false
  loggedIn := false
  farewell := none

/-- Stands for a name that is not known yet. -/
def unset : String := "*"

/-- The name by which the connection is addressed in replies. -/
def address (s : Session) : String :=
  s.nickname.getD unset

/-- Whether nothing is missing for logging in. -/
def isComplete (s : Session) : Bool :=
  s.nickname.isSome && s.username.isSome && s.passwordGiven && (!s.capStarted || s.capEnded)

/-- The origin of messages that come from this session's user. -/
def origin (s : Session) : Origin :=
  .user s.address (s.username.getD unset) (s.hostname.getD unset)

/-- The origin as text: nickname, user name and host name. -/
def signature (s : Session) : String :=
  s.origin.render

end Session

end RelayChat
