import RelayChat.Message

/-!
# Replies

The numbered replies with the wording of each. Every one names its recipient
first. They carry no origin; whoever sends them adds the relay's name.
-/

namespace RelayChat.Reply

/-- A numbered reply with its parameters. -/
def numbered (number : Numeric) (args : List String) : Message :=
  Message.ofBody (.numeric number args)

/-- Greets a user that has just logged in by its signature. -/
def welcome (client network signature : String) : Message :=
  numbered .welcome [client, "Welcome to the " ++ network ++ " IRC network, " ++ signature]

/-- Names the relay and its version. -/
def yourHost (client server version : String) : Message :=
  numbered .yourHost [client, "Your host is " ++ server ++ ", running version " ++ version]

/-- Tells when the relay was started. -/
def created (client time : String) : Message :=
  numbered .created [client, "This server was created " ++ time]

/-- Names the relay, its version and its modes. -/
def myInfo (client server version : String) : Message :=
  numbered .myInfo [client, server ++ " " ++ version ++ " o o"]

/-- Tells that a channel has no topic. -/
def noTopic (client channel : String) : Message :=
  numbered .noTopic [client, channel, "No topic is set"]

/-- Tells the topic of a channel. -/
def topic (client channel text : String) : Message :=
  numbered .topic [client, channel, text]

/-- Lists who is on a channel. -/
def names (client channel list : String) : Message :=
  numbered .names [client, "=", channel, list]

/-- Closes the list of who is on a channel. -/
def endOfNames (client channel : String) : Message :=
  numbered .endOfNames [client, channel, "End of /NAMES list"]

/-- Nobody has the nickname. -/
def noSuchNick (client target : String) : Message :=
  numbered .noSuchNick [client, target, "No such nick/channel"]

/-- There is no such channel, or the text cannot name one. -/
def noSuchChannel (client channel : String) : Message :=
  numbered .noSuchChannel [client, channel, "No such channel"]

/-- A ping came without a token. -/
def noOrigin (client : String) : Message :=
  numbered .noOrigin [client, "No origin specified"]

/-- A message came without a recipient. -/
def noRecipient (client command : String) : Message :=
  numbered .noRecipient [client, command, "No recipient given"]

/-- A message came without a text. -/
def noTextToSend (client : String) : Message :=
  numbered .noTextToSend [client, "No text to send"]

/-- A nickname command came without a nickname. -/
def noNicknameGiven (client : String) : Message :=
  numbered .noNicknameGiven [client, "No nickname given"]

/-- The text cannot be a nickname. -/
def erroneousNickname (client nickname : String) : Message :=
  numbered .erroneousNickname [client, nickname, "Erroneous nickname"]

/-- Somebody else has the nickname. -/
def nicknameInUse (client nickname : String) : Message :=
  numbered .nicknameInUse [client, nickname, "Nickname is already in use"]

/-- The sender is not on the channel. -/
def notOnChannel (client channel : String) : Message :=
  numbered .notOnChannel [client, channel, "You're not on that channel"]

/-- The sender is not logged in. -/
def notRegistered (client : String) : Message :=
  numbered .notRegistered [client, "You have not registered"]

/-- The command lacks parameters. -/
def needMoreParams (client command : String) : Message :=
  numbered .needMoreParams [client, command, "Not enough parameters"]

/-- The sender is logged in already. -/
def alreadyRegistered (client : String) : Message :=
  numbered .alreadyRegistered [client, "You may not reregister"]

/-- The password is wrong or was never given. -/
def passwordMismatch (client : String) : Message :=
  numbered .passwordMismatch [client, "Password incorrect"]

end RelayChat.Reply
