/-!
# Numeric replies

The numbered replies that the relay sends, their codes and their symbolic
names. Codes are written with three digits.
-/

namespace RelayChat

/-- A numbered reply. -/
inductive Numeric where
  | welcome
  | yourHost
  | created
  | myInfo
  | noTopic
  | topic
  | names
  | endOfNames
  | noSuchNick
  | noSuchChannel
  | noOrigin
  | noRecipient
  | noTextToSend
  | noNicknameGiven
  | erroneousNickname
  | nicknameInUse
  | notOnChannel
  | notRegistered
  | needMoreParams
  | alreadyRegistered
  | passwordMismatch
deriving DecidableEq, Repr

namespace Numeric

/-- Every numbered reply, by ascending code. -/
def all : List Numeric :=
  [welcome, yourHost, created, myInfo, noTopic, topic, names, endOfNames, noSuchNick,
    noSuchChannel, noOrigin, noRecipient, noTextToSend, noNicknameGiven, erroneousNickname,
    nicknameInUse, notOnChannel, notRegistered, needMoreParams, alreadyRegistered,
    passwordMismatch]

/-- The number of a reply. -/
def code : Numeric → Nat
  | welcome => 1
  | yourHost => 2
  | created => 3
  | myInfo => 4
  | noTopic => 331
  | topic => 332
  | names => 353
  | endOfNames => 366
  | noSuchNick => 401
  | noSuchChannel => 403
  | noOrigin => 409
  | noRecipient => 411
  | noTextToSend => 412
  | noNicknameGiven => 431
  | erroneousNickname => 432
  | nicknameInUse => 433
  | notOnChannel => 442
  | notRegistered => 451
  | needMoreParams => 461
  | alreadyRegistered => 462
  | passwordMismatch => 464

/-- The symbolic name of a reply. -/
def symbol : Numeric → String
  | welcome => "RPL_WELCOME"
  | yourHost => "RPL_YOURHOST"
  | created => "RPL_CREATED"
  | myInfo => "RPL_MYINFO"
  | noTopic => "RPL_NOTOPIC"
  | topic => "RPL_TOPIC"
  | names => "RPL_NAMREPLY"
  | endOfNames => "RPL_ENDOFNAMES"
  | noSuchNick => "ERR_NOSUCHNICK"
  | noSuchChannel => "ERR_NOSUCHCHANNEL"
  | noOrigin => "ERR_NOORIGIN"
  | noRecipient => "ERR_NORECIPIENT"
  | noTextToSend => "ERR_NOTEXTTOSEND"
  | noNicknameGiven => "ERR_NONICKNAMEGIVEN"
  | erroneousNickname => "ERR_ERRONEOUSNICKNAME"
  | nicknameInUse => "ERR_NICKNAMEINUSE"
  | notOnChannel => "ERR_NOTONCHANNEL"
  | notRegistered => "ERR_NOTREGISTERED"
  | needMoreParams => "ERR_NEEDMOREPARAMS"
  | alreadyRegistered => "ERR_ALREADYREGISTERED"
  | passwordMismatch => "ERR_PASSWDMISMATCH"

/-- The reply of a symbolic name. -/
def ofSymbol? (name : String) : Option Numeric :=
  all.find? fun numeric => numeric.symbol == name

/-- Replies from 400 to 599 report errors. -/
def isError (numeric : Numeric) : Bool :=
  400 ≤ numeric.code && numeric.code < 600

/-- One decimal digit. -/
def digit (n : Nat) : Char :=
  Char.ofNat ('0'.toNat + n % 10)

/-- The code with three digits. -/
def text (numeric : Numeric) : String :=
  String.ofList [digit (numeric.code / 100), digit (numeric.code / 10), digit numeric.code]

end Numeric

end RelayChat
