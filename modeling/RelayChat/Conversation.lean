import RelayChat.Command
import RelayChat.Names
import RelayChat.Words

/-!
# Messages, pings and farewells

A text goes to the holder of a nickname or to all others on a channel. A ping
is answered with its token. Whoever quits is told so and loses the connection;
everybody else hears of it when the connection is gone.
-/

namespace RelayChat.Conversation

/-- A text for a user or a channel. -/
def privmsg (d : Directory) (id : Handle) (tail : String) : Outcome :=
  let (target, rest) := Words.split tail
  let text := Words.trailing rest
  let message := (Message.ofBody (.privmsg target text)).withOrigin (d.origin id)
  if target.isEmpty then .refused d .noRecipient
  else if text.isEmpty then .refused d .noTextToSend
  else if !Names.isChannelTarget target then
    match d.holder? target with
    | some holder => .done d [.send holder message]
    | none => .refused d (.noSuchNick target)
  else match d.channel? target with
    | none => .refused d (.noSuchChannel target)
    | some channel =>
      if !channel.isMember (d.address id) then .refused d (.notOnChannel target)
      else .done d (Outgoing.sendAll (d.recipients channel (some id)) message)

/-- The answer to a ping. -/
def ping (site : Site) (d : Directory) (id : Handle) (tail : String) : Outcome :=
  let token := Words.firstParameter tail
  if token.isEmpty then .refused d .noOrigin
  else .done d [site.reply id (.ofBody (.pong site.name token))]

/-- What is told to a connection that quits without giving a reason. -/
def defaultReason : String := "Client quit"

/-- Quitting. The reason is kept for the others. -/
def quit (d : Directory) (id : Handle) (tail : String) : Outcome :=
  let reason := Words.trailing tail
  let farewell := if reason.isEmpty then none else some reason
  .done (d.updateSession id fun s => { s with farewell := farewell })
    [.send id (Refusal.closingLink (farewell.getD defaultReason)), .disconnect id]

end RelayChat.Conversation
