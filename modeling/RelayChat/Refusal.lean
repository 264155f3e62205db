import RelayChat.Reply

/-!
# Refused commands

Why a command was refused, with the wording for logs, and the replies by which
the sender learns of it. A wrong password also costs the sender its connection,
and a closing message comes after the replies.
-/

namespace RelayChat

/-- Why a command was refused. -/
inductive Refusal where
  /-- A parameter was missing. -/
  | needMoreParams
  /-- The text of a message was missing. -/
  | noTextToSend
  /-- The recipient of a message was missing. -/
  | noRecipient
  /-- The token of a ping was missing. -/
  | noOrigin
  /-- The nickname was missing. -/
  | noNicknameGiven
  /-- Somebody else holds the nickname. -/
  | nicknameInUse (nickname : String)
  /-- The text cannot be a nickname. -/
  | erroneousNickname (text : String)
  /-- The sender is not logged in. -/
  | notRegistered
  /-- The sender is logged in already. -/
  | alreadyRegistered
  /-- There is no such channel, or the text cannot name one. -/
  | noSuchChannel (name : String)
  /-- Nobody holds the nickname. -/
  | noSuchNick (nickname : String)
  /-- The sender is not on the channel. -/
  | notOnChannel (name : String)
  /-- The password was wrong, or was missing when the user name came. -/
  | passwordMismatch
  /-- The user name or the host name was missing. -/
  | incompleteUser
deriving DecidableEq, Repr

namespace Refusal

/-- The refusal in words. -/
def message : Refusal → String
  | needMoreParams => "not enough parameters"
  | noTextToSend => "no text to send"
  | noRecipient => "no recipient given"
  | noOrigin => "no origin specified"
  | noNicknameGiven => "no nickname given"
  | nicknameInUse nickname => "nickname in use: " ++ nickname
  | erroneousNickname text => "erroneous nickname: " ++ text
  | notRegistered => "not registered"
  | alreadyRegistered => "already registered"
  | noSuchChannel name => "no such channel: " ++ name
  | noSuchNick nickname => "no such nick: " ++ nickname
  | notOnChannel name => "not on channel: " ++ name
  | passwordMismatch => "password mismatch"
  | incompleteUser => "incomplete USER parameters"

/-- The refusal as a fixed word. -/
def code : Refusal → String
  | needMoreParams => "need_more_params"
  | noTextToSend => "no_text_to_send"
  | noRecipient => "no_recipient"
  | noOrigin => "no_origin"
  | noNicknameGiven => "no_nickname_given"
  | nicknameInUse _ => "nickname_in_use"
  | erroneousNickname _ => "erroneous_nickname"
  | notRegistered => "not_registered"
  | alreadyRegistered => "already_registered"
  | noSuchChannel _ => "no_such_channel"
  | noSuchNick _ => "no_such_nick"
  | notOnChannel _ => "not_on_channel"
  | passwordMismatch => "password_mismatch"
  | incompleteUser => "incomplete_user"

/-- Whether the connection is closed after the replies. -/
def disconnects : Refusal → Bool
  | passwordMismatch => true
  | _ => false

/-- The numbered replies, to a recipient that is addressed as `client` and sent
the command spelled `command`. -/
def numerics (client command : String) : Refusal → List Message
  | needMoreParams => [Reply.needMoreParams client command]
  | noTextToSend => [Reply.noTextToSend client]
  | noRecipient => [Reply.noRecipient client command]
  | noOrigin => [Reply.noOrigin client]
  | noNicknameGiven => [Reply.noNicknameGiven client]
  | nicknameInUse nickname => [Reply.nicknameInUse client nickname]
  | erroneousNickname text => [Reply.erroneousNickname client text]
  | notRegistered => [Reply.notRegistered client]
  | alreadyRegistered => [Reply.alreadyRegistered client]
  | noSuchChannel name => [Reply.noSuchChannel client name]
  | noSuchNick nickname => [Reply.noSuchNick client nickname]
  | notOnChannel name => [Reply.notOnChannel client name]
  | passwordMismatch => [Reply.passwordMismatch client, Reply.notRegistered client]
  | incompleteUser => [Reply.needMoreParams client command, Reply.notRegistered client]

/-- What a connection is told before it is closed. -/
def closingLink (reason : String) : Message :=
  .ofBody (.error ("Closing link: (" ++ reason ++ ")"))

/-- Everything the sender is told, in order: the numbered replies from the
relay named `server`, and the closing message if the connection is closed. -/
def replies (server client command : String) (refusal : Refusal) : List Message :=
  (refusal.numerics client command).map (·.withOrigin (.server server)) ++
    if refusal.disconnects then [closingLink "Access denied"] else []

end Refusal

end RelayChat
