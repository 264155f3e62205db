import RelayChat.Numeric

/-!
# Outbound messages

What the relay sends: an optional origin and a body. `Message.render` gives the
line as it goes out, with its closing line end.
-/

namespace RelayChat

/-- Whom a message comes from. -/
inductive Origin where
  /-- The relay itself, by its name. -/
  | server (name : String)
  /-- A user, by nickname, user name and host name. -/
  | user (nickname username hostname : String)
deriving DecidableEq, Repr

namespace Origin

/-- The origin as it is written in front of a message. -/
def render : Origin → String
  | server name => name
  | user nickname username hostname => nickname ++ "!" ++ username ++ "@" ++ hostname

end Origin

/-- The command of an outbound message with its parameters. -/
inductive Body where
  /-- The origin's new nickname. -/
  | nick (new : String)
  /-- The origin came into a channel. -/
  | join (channel : String)
  /-- The origin left a channel, and why if it said so. -/
  | part (channel : String) (reason : Option String)
  /-- A text for a user or a channel. -/
  | privmsg (target text : String)
  /-- The new topic of a channel. -/
  | topic (channel text : String)
  /-- The origin is gone. -/
  | quit (reason : String)
  /-- The answer to a ping. -/
  | pong (server token : String)
  /-- The answer to a question about capabilities. -/
  | cap (target subcommand capabilities : String)
  /-- What the recipient is told before its connection is closed. -/
  | error (text : String)
  /-- A numbered reply, whose first parameter names the recipient. -/
  | numeric (number : Numeric) (args : List String)
deriving DecidableEq, Repr

namespace Body

/-- Whether a last parameter would be misread if it were written as a word. -/
def needsColon (s : String) : Bool :=
  s.toList.isEmpty || s.toList.contains ' ' || s.toList.head? == some ':'

/-- Parameters after a space each; the last one gets a colon if it needs one. -/
def renderWords : List String → String
  | [] => ""
  | [last] => if needsColon last then " :" ++ last else " " ++ last
  | arg :: rest => " " ++ arg ++ renderWords rest

/-- Parameters after a space each; the last one is free text and always gets a
colon. -/
def renderFreeText : List String → String
  | [] => ""
  | [last] => " :" ++ last
  | arg :: rest => " " ++ arg ++ renderFreeText rest

/-- Parameters of a numbered reply: a single one is a word as it stands, of
several the last is free text. -/
def renderNumericArgs : List String → String
  | [] => ""
  | [only] => " " ++ only
  | args => renderFreeText args

/-- The body as one line without its line end. -/
def render : Body → String
  | nick new => "NICK" ++ renderFreeText [new]
  | join channel => "JOIN" ++ renderWords [channel]
  | part channel (some reason) => "PART" ++ renderFreeText [channel, reason]
  | part channel none => "PART" ++ renderWords [channel]
  | privmsg target text => "PRIVMSG" ++ renderFreeText [target, text]
  | topic channel text => "TOPIC" ++ renderFreeText [channel, text]
  | quit reason => "QUIT" ++ renderFreeText [reason]
  | pong server token => "PONG" ++ renderFreeText [server, token]
  | cap target subcommand capabilities =>
    "CAP" ++ renderFreeText [target, subcommand, capabilities]
  | error text => "ERROR" ++ renderFreeText [text]
  | numeric number args => number.text ++ renderNumericArgs args

end Body

/-- An outbound message. -/
structure Message where
  /-- Who it comes from; `none` for a message without an origin. -/
  origin : Option Origin
  /-- What it says. -/
  body : Body
deriving DecidableEq, Repr

namespace Message

/-- A message without an origin. -/
def ofBody (body : Body) : Message :=
  ⟨none, body⟩

/-- The same message from the given origin. -/
def withOrigin (message : Message) (origin : Origin) : Message :=
  { message with origin := some origin }

/-- The line end that closes every message. -/
def lineEnd : String := "\r\n"

/-- The message as one line with its line end. -/
def render (message : Message) : String :=
  match message.origin with
  | some origin => ":" ++ origin.render ++ " " ++ message.body.render ++ lineEnd
  | none => message.body.render ++ lineEnd

end Message

end RelayChat
