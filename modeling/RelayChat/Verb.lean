/-!
# The command vocabulary

The commands that a connection may send. A token names a command whatever the
case of its ASCII letters; every other token is `unknown`.
-/

namespace RelayChat

/-- The commands that the relay understands, and the one that stands for all
other tokens. -/
inductive Verb where
  /-- Give the password. -/
  | pass
  /-- Negotiate capabilities. -/
  | cap
  /-- Take a nickname. -/
  | nick
  /-- Give the user name and the host name. -/
  | user
  /-- Come into a channel. -/
  | join
  /-- Leave a channel. -/
  | part
  /-- Send a text to a user or a channel. -/
  | privmsg
  /-- Ask for the topic of a channel, or set it. -/
  | topic
  /-- Change modes; has no effect. -/
  | mode
  /-- Invite somebody; has no effect. -/
  | invite
  /-- Remove somebody from a channel; has no effect. -/
  | kick
  /-- Leave the relay. -/
  | quit
  /-- Ask for a sign of life. -/
  | ping
  /-- Any other token. -/
  | unknown
deriving DecidableEq, Repr

namespace Verb

/-- The vocabulary in the order in which a token is looked up. -/
def all : List Verb :=
  [pass, cap, nick, user, join, part, privmsg, topic, mode, invite, kick, quit, ping]

/-- The canonical spelling, in capitals. -/
def spelling : Verb → String
  | pass => "PASS"
  | cap => "CAP"
  | nick => "NICK"
  | user => "USER"
  | join => "JOIN"
  | part => "PART"
  | privmsg => "PRIVMSG"
  | topic => "TOPIC"
  | mode => "MODE"
  | invite => "INVITE"
  | kick => "KICK"
  | quit => "QUIT"
  | ping => "PING"
  | unknown => "UNKNOWN"

/-- Whether two texts differ at most in the case of ASCII letters. -/
def sameLetters (a b : String) : Bool :=
  a.toList.map Char.toLower == b.toList.map Char.toLower

/-- The command that a token names. -/
def ofToken (token : String) : Verb :=
  (all.find? fun verb => sameLetters verb.spelling token).getD unknown

/-- Whether the command belongs to the handshake that logs a connection in. -/
def isRegistration : Verb → Bool
  | pass | cap | nick | user => true
  | _ => false

/-- Whether the command is refused to a connection that is not logged in. -/
def needsLogin : Verb → Bool
  | join | part | topic | mode | invite | kick | privmsg => true
  | _ => false

theorem mem_all {verb : Verb} : verb ∈ all ↔ verb ≠ unknown := by
  cases verb <;> decide

end Verb

end RelayChat
