import RelayChat.ChannelCommands
import RelayChat.Conversation
import RelayChat.Registration
import RelayChat.Request

/-!
# From a line to its effects

A line is read, its command is looked up, and the command is carried out if the
sender may give it. A refusal becomes replies to the sender, and every command
of the handshake that succeeds may complete it.
-/

namespace RelayChat.Dispatch

/-- Carries out a command, whoever gives it. Modes, invitations and kicks are
accepted and do nothing. -/
def perform (site : Site) (d : Directory) (id : Handle) (tail : String) : Verb → Outcome
  | .pass => Registration.pass site d id tail
  | .cap => Registration.cap site d id tail
  | .nick => Registration.nick d id tail
  | .user => Registration.user site d id tail
  | .join => ChannelCommands.join site d id tail
  | .part => ChannelCommands.part d id tail
  | .topic => ChannelCommands.topic site d id tail
  | .privmsg => Conversation.privmsg d id tail
  | .quit => Conversation.quit d id tail
  | .ping => Conversation.ping site d id tail
  | .mode | .invite | .kick | .unknown => .done d []

/-- Carries out a command if the sender may give it. -/
def attempt (site : Site) (d : Directory) (id : Handle) (tail : String) (verb : Verb) : Outcome :=
  if verb.needsLogin && !d.isLoggedIn id then .refused d .notRegistered
  else perform site d id tail verb

/-- What follows a command: the replies to a refusal, or the login that a
command of the handshake has completed. -/
def conclude (site : Site) (id : Handle) (verb : Verb) (outcome : Outcome) :
    Directory × List (Outgoing Message) :=
  let d := outcome.directory
  match outcome.refusal with
  | some refusal =>
    let replies := refusal.replies site.name (d.address id) verb.spelling
    (d, outcome.calls ++ replies.map (.send id) ++
      if refusal.disconnects then [.disconnect id] else [])
  | none =>
    if verb.isRegistration then
      let (after, greeting) := Registration.logIn site d id
      (after, outcome.calls ++ greeting)
    else (d, outcome.calls)

/-- The effects of one line. A line without a known command has none. -/
def line (site : Site) (d : Directory) (id : Handle) (text : String) :
    Directory × List (Outgoing Message) :=
  match Request.parse? text with
  | none => (d, [])
  | some request =>
    match request.verb with
    | .unknown => (d, [])
    | verb => conclude site id verb (attempt site d id request.tail verb)

end RelayChat.Dispatch
