import RelayChat.Command
import RelayChat.Names
import RelayChat.Verb
import RelayChat.Words

/-!
# Logging in

The commands of the handshake: the password, the negotiation of capabilities,
the nickname and the user name. They may come in any order. A connection is
logged in as soon as nothing is missing, and is then greeted once.
-/

namespace RelayChat.Registration

/-- The four replies that greet a session that has just been logged in. -/
def greeting (site : Site) (session : Session) : List Message :=
  let client := session.address
  [Reply.welcome client site.network session.signature,
    Reply.yourHost client site.name site.version,
    Reply.created client (CivilTime.render site.created),
    Reply.myInfo client site.name site.version]

/-- Logs a connection in and greets it, if it is not logged in yet and nothing
is missing. -/
def logIn (site : Site) (d : Directory) (id : Handle) : Directory × List (Outgoing Message) :=
  match d.session? id with
  | none => (d, [])
  | some session =>
    if session.loggedIn || !session.isComplete then (d, [])
    else
      (d.updateSession id fun s => { s with loggedIn := true },
        (greeting site session).map (site.reply id))

/-- The password. A wrong one is refused, and so is any once logged in. -/
def pass (site : Site) (d : Directory) (id : Handle) (tail : String) : Outcome :=
  if d.isLoggedIn id then .refused d .alreadyRegistered
  else if Words.firstParameter tail = site.password then
    .done (d.updateSession id fun s => { s with passwordGiven := true }) []
  else .refused d .passwordMismatch

/-- The word that ends the negotiation of capabilities. -/
def capEndWord : String := "END"

/-- The answer to a question about capabilities: there are none. -/
def noCapabilities : Message :=
  .ofBody (.cap "*" "LS" "")

/-- The negotiation of capabilities. Every subcommand begins it; one ends it,
and all others are answered alike. -/
def cap (site : Site) (d : Directory) (id : Handle) (tail : String) : Outcome :=
  if Verb.sameLetters (Words.split tail).1 capEndWord then
    .done (d.updateSession id fun s => { s with capStarted := true, capEnded := true }) []
  else
    .done (d.updateSession id fun s => { s with capStarted := true })
      [site.reply id noCapabilities]

/-- The nickname. A change after logging in is announced to all, under the name
that the user had before. -/
def nick (d : Directory) (id : Handle) (tail : String) : Outcome :=
  let new := Words.firstParameter tail
  if new.isEmpty then .refused d .noNicknameGiven
  else if !Names.isNickname new then .refused d (.erroneousNickname new)
  else match d.holder? new with
    | some holder => if holder = id then .done d [] else .refused d (.nicknameInUse new)
    | none =>
      .done (d.takeNickname id new)
        (if d.isLoggedIn id then
          [.broadcast ((Message.ofBody (.nick new)).withOrigin (d.origin id))]
        else [])

/-- The user name and the host name. They are kept even if the password is
still missing, which refuses the command. -/
def user (site : Site) (d : Directory) (id : Handle) (tail : String) : Outcome :=
  if d.isLoggedIn id then .refused d .alreadyRegistered
  else
    let (username, rest) := Words.split tail
    let (hostname, _) := Words.split rest
    if username.isEmpty || hostname.isEmpty then .refused d .incompleteUser
    else match d.session? id with
      | none => .done d []
      | some session =>
        let named := d.updateSession id fun s =>
          { s with username := some username, hostname := some hostname }
        let (after, calls) := logIn site named id
        if session.passwordGiven then .done after calls
        else ⟨after, calls, some .passwordMismatch⟩

end RelayChat.Registration
