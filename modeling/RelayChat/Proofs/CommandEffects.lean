import RelayChat.Dispatch
import RelayChat.Proofs.DirectoryLookup

/-!
# All ways a command can end

`Dispatch.Effect` lists what a command may do, with the guards under which it
does it: the directory afterwards, the calls made and the refusal. It also says which
parts of the command's tail are kept or repeated. Every attempt
is one of these (`attempt_effect`), so an invariant of the directory needs one
case for each way to end and never the bodies of the commands. A line is either
without effect or the conclusion of one such attempt (`line_effect`), and a
conclusion leaves the attempt's directory or logs the sender in on top of it
(`conclude_cases`).
-/

namespace RelayChat

namespace Directory

/-- Notes the user name and the host name that a connection gave. -/
def nameUser (d : Directory) (id : Handle) (username hostname : String) : Directory :=
  d.updateSession id ({ · with username := some username, hostname := some hostname })

end Directory

namespace Registration

variable {site : Site} {d : Directory} {id : Handle}

/-- A session that is complete and not yet logged in is logged in and greeted. -/
theorem logIn_of_complete {s : Session} (hs : d.session? id = some s)
    (hout : s.loggedIn = false) (hc : s.isComplete = true) :
    logIn site d id =
      (d.updateSession id ({ · with loggedIn := true }),
        (greeting site s).map (site.reply id)) := by
  unfold logIn
  rw [hs]
  simp only [hout, hc, Bool.not_true, Bool.or_false, Bool.false_eq_true, if_false]

/-- Any other session stays as it is, and so does a connection without one. -/
theorem logIn_of_not_due
    (h : ∀ s, d.session? id = some s → s.isComplete = true → s.loggedIn = true) :
    logIn site d id = (d, []) := by
  unfold logIn
  cases hs : d.session? id with
  | none => rfl
  | some s =>
    have hskip : (s.loggedIn || !s.isComplete) = true := by
      cases hc : s.isComplete with
      | false => rw [Bool.not_false, Bool.or_true]
      | true => rw [h s hs hc, Bool.true_or]
    simp only [hskip, if_true]

/-- A login happens in full or not at all. -/
theorem logIn_cases (site : Site) (d : Directory) (id : Handle) :
    (logIn site d id = (d, []) ∧
        ∀ s, d.session? id = some s → s.isComplete = true → s.loggedIn = true) ∨
      ∃ s, d.session? id = some s ∧ s.loggedIn = false ∧ s.isComplete = true ∧
        logIn site d id =
          (d.updateSession id ({ · with loggedIn := true }),
            (greeting site s).map (site.reply id)) := by
  by_cases h : ∀ s, d.session? id = some s → s.isComplete = true → s.loggedIn = true
  · exact Or.inl ⟨logIn_of_not_due h, h⟩
  · obtain ⟨s, h⟩ := Classical.not_forall.mp h
    obtain ⟨hs, h⟩ := Classical.not_imp.mp h
    obtain ⟨hc, hout⟩ := Classical.not_imp.mp h
    have hout : s.loggedIn = false := Bool.eq_false_iff.mpr hout
    exact Or.inr ⟨s, hs, hout, hc, logIn_of_complete hs hout hc⟩

/-- A login concerns no holder of a nickname. -/
theorem holder?_logIn {n : String} : (logIn site d id).1.holder? n = d.holder? n := by
  rcases logIn_cases site d id with ⟨he, -⟩ | ⟨s, -, -, -, he⟩
  · rw [he]
  · rw [he]
    exact Directory.holder?_updateSession

/-- A login concerns no channel. -/
theorem channel?_logIn {name : String} : (logIn site d id).1.channel? name = d.channel? name := by
  rcases logIn_cases site d id with ⟨he, -⟩ | ⟨s, -, -, -, he⟩
  · rw [he]
  · rw [he]
    exact Directory.channel?_updateSession

end Registration

namespace Words

/-- A reason as it counts: none if nothing is said. -/
def reason? (text : String) : Option String :=
  if text.isEmpty then none else some text

end Words

namespace Refusal

/-- A wrong password is the only reason to close a connection. -/
theorem disconnects_iff {refusal : Refusal} :
    refusal.disconnects = true ↔ refusal = .passwordMismatch := by
  cases refusal <;> simp [disconnects]

/-- The part of the request that is repeated in the reply to a refused command. -/
def quoted? : Refusal → Option String
  | nicknameInUse text | erroneousNickname text | noSuchChannel text | noSuchNick text
  | notOnChannel text => some text
  | _ => none

/-- Whatever a refusal quotes is what its command reads first of its tail. -/
def Quotes (tail : String) (refusal : Refusal) : Prop :=
  ∀ text, refusal.quoted? = some text →
    text = Words.firstParameter tail ∨ text = (Words.split tail).1

namespace Quotes

variable {tail : String} {refusal : Refusal}

theorem nothing (h : refusal.quoted? = none) : refusal.Quotes tail := by
  intro text htext
  rw [h] at htext
  cases htext

theorem parameter (h : refusal.quoted? = some (Words.firstParameter tail)) :
    refusal.Quotes tail :=
  fun _ htext => Or.inl (Option.some.inj (htext.symm.trans h))

theorem word (h : refusal.quoted? = some (Words.split tail).1) : refusal.Quotes tail :=
  fun _ htext => Or.inr (Option.some.inj (htext.symm.trans h))

end Quotes

end Refusal

namespace Dispatch

/-- What a command may do. Every case names the directory afterwards, the calls
and the refusal, and carries the guards that the sender has passed. -/
inductive Effect (site : Site) (d : Directory) (id : Handle) (tail : String) :
    Verb → Outcome → Prop where
  /-- The command is accepted and does nothing. -/
  | idle (verb : Verb) : Effect site d id tail verb (.done d [])
  /-- The command is refused, and the sender keeps its connection. -/
  | refused (verb : Verb) (refusal : Refusal) (hr : refusal.disconnects = false)
      (hq : refusal.Quotes tail) :
      Effect site d id tail verb (.refused d refusal)
  /-- A wrong password is refused. -/
  | wrongPassword (hout : d.isLoggedIn id = false)
      (hp : Words.firstParameter tail ≠ site.password) :
      Effect site d id tail .pass (.refused d .passwordMismatch)
  /-- The right password is noted. -/
  | password (hout : d.isLoggedIn id = false) (hp : Words.firstParameter tail = site.password) :
      Effect site d id tail .pass
        (.done (d.updateSession id ({ · with passwordGiven := true })) [])
  /-- The negotiation of capabilities ends. -/
  | capEnd :
      Effect site d id tail .cap
        (.done (d.updateSession id ({ · with capStarted := true, capEnded := true })) [])
  /-- The negotiation of capabilities begins, or goes on. -/
  | capOther :
      Effect site d id tail .cap
        (.done (d.updateSession id ({ · with capStarted := true }))
          [site.reply id Registration.noCapabilities])
  /-- A free nickname is taken, and announced if the sender is logged in. -/
  | nickname (valid : Names.isNickname (Words.firstParameter tail) = true)
      (free : d.holder? (Words.firstParameter tail) = none) :
      Effect site d id tail .nick
        (.done (d.takeNickname id (Words.firstParameter tail))
          (if d.isLoggedIn id then
            [.broadcast ((Message.ofBody (.nick (Words.firstParameter tail))).withOrigin
              (d.origin id))]
          else []))
  /-- The user name is noted, and a login that this completes takes place. -/
  | named {s : Session} (username hostname : String) (hs : d.session? id = some s)
      (hout : s.loggedIn = false) (hp : s.passwordGiven = true)
      (huser : username = (Words.split tail).1)
      (hhost : hostname = (Words.split (Words.split tail).2).1) :
      Effect site d id tail .user
        (.done (Registration.logIn site (d.nameUser id username hostname) id).1
          (Registration.logIn site (d.nameUser id username hostname) id).2)
  /-- The user name is noted, and the command is refused for want of a password. -/
  | namedUnproven {s : Session} (username hostname : String) (hs : d.session? id = some s)
      (hout : s.loggedIn = false) (hp : s.passwordGiven = false)
      (huser : username = (Words.split tail).1)
      (hhost : hostname = (Words.split (Words.split tail).2).1) :
      Effect site d id tail .user
        ⟨d.nameUser id username hostname, [], some .passwordMismatch⟩
  /-- The sender comes into a channel on which others are. -/
  | joined {channel : Channel} (hin : d.isLoggedIn id = true)
      (valid : Names.isChannelName (Words.firstParameter tail) = true)
      (hc : d.channel? (Words.firstParameter tail) = some channel)
      (hm : channel.isMember (d.address id) = false) :
      Effect site d id tail .join
        (.done (d.updateChannel (Words.firstParameter tail) fun _ => channel.add (d.address id))
          (ChannelCommands.announceJoin site
            (d.updateChannel (Words.firstParameter tail) fun _ => channel.add (d.address id)) id
            (channel.add (d.address id)) (Words.firstParameter tail)))
  /-- The sender creates a channel. -/
  | created (hin : d.isLoggedIn id = true)
      (valid : Names.isChannelName (Words.firstParameter tail) = true)
      (hc : d.channel? (Words.firstParameter tail) = none) :
      Effect site d id tail .join
        (.done (d.putChannel (.create (Words.firstParameter tail) (d.address id)))
          (ChannelCommands.announceJoin site
            (d.putChannel (.create (Words.firstParameter tail) (d.address id))) id
            (.create (Words.firstParameter tail) (d.address id)) (Words.firstParameter tail)))
  /-- The sender leaves a channel. -/
  | left {channel : Channel} (reason : Option String) (hin : d.isLoggedIn id = true)
      (hc : d.channel? (Words.split tail).1 = some channel)
      (hm : channel.isMember (d.address id) = true)
      (hreason : reason = Words.reason? (Words.trailing (Words.split tail).2)) :
      Effect site d id tail .part
        (.done (d.leaveChannel (Words.split tail).1 (d.address id))
          (Outgoing.sendAll (d.recipients channel none)
            ((Message.ofBody (.part (Words.split tail).1 reason)).withOrigin (d.origin id))))
  /-- The sender learns the topic of a channel. -/
  | topicShown {channel : Channel} (hin : d.isLoggedIn id = true)
      (hc : d.channel? (Words.split tail).1 = some channel)
      (hm : channel.isMember (d.address id) = true) (hr : (Words.split tail).2 = "") :
      Effect site d id tail .topic
        (.done d [site.reply id
          (ChannelCommands.topicReply (d.address id) (Words.split tail).1 channel.topic)])
  /-- The sender sets the topic of a channel. -/
  | topicSet {channel : Channel} (hin : d.isLoggedIn id = true)
      (hc : d.channel? (Words.split tail).1 = some channel)
      (hm : channel.isMember (d.address id) = true) (hr : (Words.split tail).2 ≠ "") :
      Effect site d id tail .topic
        (.done
          (d.updateChannel (Words.split tail).1
            ({ · with topic := Words.trailing (Words.split tail).2 }))
          (Outgoing.sendAll (d.recipients channel none)
            ((Message.ofBody
              (.topic (Words.split tail).1 (Words.trailing (Words.split tail).2))).withOrigin
                (d.origin id))))
  /-- A text goes to the holder of a nickname. -/
  | told {holder : Handle} (hin : d.isLoggedIn id = true)
      (ht : Names.isChannelTarget (Words.split tail).1 = false)
      (hh : d.holder? (Words.split tail).1 = some holder) :
      Effect site d id tail .privmsg
        (.done d [.send holder
          ((Message.ofBody
            (.privmsg (Words.split tail).1 (Words.trailing (Words.split tail).2))).withOrigin
              (d.origin id))])
  /-- A text goes to all others on a channel. -/
  | spoken {channel : Channel} (hin : d.isLoggedIn id = true)
      (ht : Names.isChannelTarget (Words.split tail).1 = true)
      (hc : d.channel? (Words.split tail).1 = some channel)
      (hm : channel.isMember (d.address id) = true) :
      Effect site d id tail .privmsg
        (.done d (Outgoing.sendAll (d.recipients channel (some id))
          ((Message.ofBody
            (.privmsg (Words.split tail).1 (Words.trailing (Words.split tail).2))).withOrigin
              (d.origin id))))
  /-- A ping is answered. -/
  | pong :
      Effect site d id tail .ping
        (.done d [site.reply id (.ofBody (.pong site.name (Words.firstParameter tail)))])
  /-- The sender quits. -/
  | quit (farewell : Option String)
      (hfarewell : farewell = Words.reason? (Words.trailing tail)) :
      Effect site d id tail .quit
        (.done (d.updateSession id ({ · with farewell := farewell }))
          [.send id (Refusal.closingLink (farewell.getD Conversation.defaultReason)),
            .disconnect id])

/-- What is quoted in a refusal was read off the tail. -/
theorem Effect.quotes {site : Site} {d : Directory} {id : Handle} {tail : String} {verb : Verb}
    {outcome : Outcome} {refusal : Refusal} (h : Effect site d id tail verb outcome)
    (hr : outcome.refusal = some refusal) : refusal.Quotes tail := by
  cases h with
  | refused _ _ _ hq =>
    cases hr
    exact hq
  | wrongPassword =>
    cases hr
    exact .nothing rfl
  | namedUnproven =>
    cases hr
    exact .nothing rfl
  | _ => cases hr

/-! ## Every attempt has one of the effects -/

section Commands

variable {site : Site} {d : Directory} {id : Handle} {tail : String}

theorem pass_effect : Effect site d id tail .pass (Registration.pass site d id tail) := by
  unfold Registration.pass
  cases hout : d.isLoggedIn id
  · by_cases hp : Words.firstParameter tail = site.password
    · simpa only [hp, Bool.false_eq_true, if_false, if_true] using Effect.password hout hp
    · simpa only [hp, Bool.false_eq_true, if_false] using Effect.wrongPassword hout hp
  · exact Effect.refused .pass .alreadyRegistered rfl (.nothing rfl)

theorem cap_effect : Effect site d id tail .cap (Registration.cap site d id tail) := by
  unfold Registration.cap
  split
  · exact Effect.capEnd
  · exact Effect.capOther

theorem nick_effect : Effect site d id tail .nick (Registration.nick d id tail) := by
  unfold Registration.nick
  dsimp only
  split
  · exact Effect.refused .nick .noNicknameGiven rfl (.nothing rfl)
  · split
    · exact Effect.refused .nick _ rfl (.parameter rfl)
    · rename_i hvalid
      have hvalid : Names.isNickname (Words.firstParameter tail) = true := by simpa using hvalid
      split
      · split
        · exact Effect.idle .nick
        · exact Effect.refused .nick _ rfl (.parameter rfl)
      · rename_i hfree
        exact Effect.nickname hvalid hfree

/-- Without a password the name is noted and nobody is logged in. -/
theorem logIn_nameUser_unproven (site : Site) {s : Session} (username hostname : String)
    (hs : d.session? id = some s) (hp : s.passwordGiven = false) :
    Registration.logIn site (d.nameUser id username hostname) id =
      (d.nameUser id username hostname, []) := by
  apply Registration.logIn_of_not_due
  intro s' hs' hc
  have he : s' = { s with username := some username, hostname := some hostname } := by
    rw [Directory.nameUser, Directory.session?_updateSession, if_pos rfl, hs] at hs'
    exact (Option.some.inj hs').symm
  rw [he] at hc
  simp [Session.isComplete, hp] at hc

theorem user_effect : Effect site d id tail .user (Registration.user site d id tail) := by
  unfold Registration.user
  cases hout : d.isLoggedIn id
  · dsimp only
    rw [if_neg Bool.false_ne_true]
    split
    · exact Effect.refused .user .incompleteUser rfl (.nothing rfl)
    · cases hs : d.session? id with
      | none => exact Effect.idle .user
      | some s =>
        have hsout : s.loggedIn = false := by
          rw [Directory.isLoggedIn, hs] at hout
          exact hout
        dsimp only
        cases hp : s.passwordGiven
        · have hlogin := logIn_nameUser_unproven site (Words.split tail).1
            (Words.split (Words.split tail).2).1 hs hp
          rw [Directory.nameUser] at hlogin
          rw [hlogin, if_neg Bool.false_ne_true]
          exact Effect.namedUnproven _ _ hs hsout hp rfl rfl
        · rw [if_pos rfl]
          exact Effect.named _ _ hs hsout hp rfl rfl
  · exact Effect.refused .user .alreadyRegistered rfl (.nothing rfl)

theorem join_effect (hin : d.isLoggedIn id = true) :
    Effect site d id tail .join (ChannelCommands.join site d id tail) := by
  unfold ChannelCommands.join
  dsimp only
  split
  · exact Effect.refused .join .needMoreParams rfl (.nothing rfl)
  · split
    · exact Effect.refused .join _ rfl (.parameter rfl)
    · rename_i hvalid
      have hvalid : Names.isChannelName (Words.firstParameter tail) = true := by
        simpa using hvalid
      split
      · rename_i channel hc
        split
        · exact Effect.idle .join
        · rename_i hm
          exact Effect.joined hin hvalid hc (Bool.eq_false_iff.mpr hm)
      · rename_i hc
        exact Effect.created hin hvalid hc

theorem part_effect (hin : d.isLoggedIn id = true) :
    Effect site d id tail .part (ChannelCommands.part d id tail) := by
  unfold ChannelCommands.part
  dsimp only
  split
  · exact Effect.refused .part .needMoreParams rfl (.nothing rfl)
  · split
    · exact Effect.refused .part _ rfl (.word rfl)
    · rename_i channel hc
      split
      · exact Effect.refused .part _ rfl (.word rfl)
      · rename_i hm
        exact Effect.left _ hin hc (by simpa using hm) rfl

theorem topic_effect (hin : d.isLoggedIn id = true) :
    Effect site d id tail .topic (ChannelCommands.topic site d id tail) := by
  unfold ChannelCommands.topic
  dsimp only
  split
  · exact Effect.refused .topic .needMoreParams rfl (.nothing rfl)
  · split
    · exact Effect.refused .topic _ rfl (.word rfl)
    · rename_i channel hc
      split
      · exact Effect.refused .topic _ rfl (.word rfl)
      · rename_i hm
        have hm : channel.isMember (d.address id) = true := by simpa using hm
        split
        · rename_i hr
          exact Effect.topicShown hin hc hm (String.isEmpty_iff.mp hr)
        · rename_i hr
          exact Effect.topicSet hin hc hm fun he => hr (String.isEmpty_iff.mpr he)

theorem privmsg_effect (hin : d.isLoggedIn id = true) :
    Effect site d id tail .privmsg (Conversation.privmsg d id tail) := by
  unfold Conversation.privmsg
  dsimp only
  split
  · exact Effect.refused .privmsg .noRecipient rfl (.nothing rfl)
  · split
    · exact Effect.refused .privmsg .noTextToSend rfl (.nothing rfl)
    · split
      · rename_i ht
        have ht : Names.isChannelTarget (Words.split tail).1 = false := by simpa using ht
        split
        · rename_i holder hh
          exact Effect.told hin ht hh
        · exact Effect.refused .privmsg _ rfl (.word rfl)
      · rename_i ht
        have ht : Names.isChannelTarget (Words.split tail).1 = true := by simpa using ht
        split
        · exact Effect.refused .privmsg _ rfl (.word rfl)
        · rename_i channel hc
          split
          · exact Effect.refused .privmsg _ rfl (.word rfl)
          · rename_i hm
            exact Effect.spoken hin ht hc (by simpa using hm)

theorem ping_effect : Effect site d id tail .ping (Conversation.ping site d id tail) := by
  unfold Conversation.ping
  dsimp only
  split
  · exact Effect.refused .ping .noOrigin rfl (.nothing rfl)
  · exact Effect.pong

/-- Every attempt at a command has one of the listed effects. -/
theorem attempt_effect (verb : Verb) :
    Effect site d id tail verb (attempt site d id tail verb) := by
  unfold attempt
  split
  · exact Effect.refused verb .notRegistered rfl (.nothing rfl)
  · rename_i hgate
    have hin : verb.needsLogin = true → d.isLoggedIn id = true := by
      intro hneeds
      simpa [hneeds] using hgate
    cases verb with
    | pass => exact pass_effect
    | cap => exact cap_effect
    | nick => exact nick_effect
    | user => exact user_effect
    | join => exact join_effect (hin rfl)
    | part => exact part_effect (hin rfl)
    | topic => exact topic_effect (hin rfl)
    | privmsg => exact privmsg_effect (hin rfl)
    | quit => exact Effect.quit _ rfl
    | ping => exact ping_effect
    | mode => exact Effect.idle .mode
    | invite => exact Effect.idle .invite
    | kick => exact Effect.idle .kick
    | unknown => exact Effect.idle .unknown

end Commands

/-! ## From an attempt to the line -/

/-- What the sender of a refused command is told, and whether it is cut off. -/
def rejection (site : Site) (d : Directory) (id : Handle) (verb : Verb) (refusal : Refusal) :
    List (Outgoing Message) :=
  (refusal.replies site.name (d.address id) verb.spelling).map (.send id) ++
    if refusal.disconnects then [.disconnect id] else []

/-- A refusal is answered and changes nothing more, a command of the handshake
that succeeds is followed by the login that it may complete, and any other command
that succeeds is the whole effect of its line. -/
theorem conclude_cases (site : Site) (id : Handle) (verb : Verb) (outcome : Outcome) :
    (∃ refusal, outcome.refusal = some refusal ∧
      conclude site id verb outcome = (outcome.directory,
        outcome.calls ++ rejection site outcome.directory id verb refusal)) ∨
    (outcome.refusal = none ∧ verb.isRegistration = true ∧
      conclude site id verb outcome = ((Registration.logIn site outcome.directory id).1,
        outcome.calls ++ (Registration.logIn site outcome.directory id).2)) ∨
    (outcome.refusal = none ∧ verb.isRegistration = false ∧
      conclude site id verb outcome = (outcome.directory, outcome.calls)) := by
  cases hr : outcome.refusal with
  | some refusal =>
    left
    exact ⟨refusal, rfl, by simp [conclude, rejection, hr]⟩
  | none =>
    right
    cases hv : verb.isRegistration with
    | true =>
      left
      exact ⟨rfl, rfl, by simp [conclude, hr, hv]⟩
    | false =>
      right
      exact ⟨rfl, rfl, by simp [conclude, hr, hv]⟩

/-- A line with a known command is the conclusion of the attempt at it. -/
theorem line_of_request (site : Site) (d : Directory) (id : Handle) {text : String}
    {request : Request} (hparse : Request.parse? text = some request)
    (hknown : request.verb ≠ .unknown) :
    line site d id text =
      conclude site id request.verb (attempt site d id request.tail request.verb) := by
  unfold line
  rw [hparse]
  dsimp only
  split
  · rename_i hverb
    exact absurd hverb hknown
  · rfl

/-- A line asks for something that is known, or for nothing. -/
theorem known_or_idle (text : String) :
    (∃ request, Request.parse? text = some request ∧ request.verb ≠ .unknown) ∨
      ∀ request, Request.parse? text = some request → request.verb = .unknown := by
  cases hparse : Request.parse? text with
  | none => exact Or.inr fun _ h => nomatch h
  | some request =>
    by_cases hknown : request.verb = .unknown
    · exact Or.inr fun _ h => Option.some.inj h ▸ hknown
    · exact Or.inl ⟨request, rfl, hknown⟩

/-- A line that asks for nothing does nothing. -/
theorem line_of_idle (site : Site) (d : Directory) (id : Handle) {text : String}
    (h : ∀ request, Request.parse? text = some request → request.verb = .unknown) :
    line site d id text = (d, []) := by
  unfold line
  cases hparse : Request.parse? text with
  | none => rfl
  | some request =>
    dsimp only
    rw [h request hparse]

/-- A line does nothing, or it is the conclusion of a command's effect. -/
theorem line_effect (site : Site) (d : Directory) (id : Handle) (text : String) :
    line site d id text = (d, []) ∨
      ∃ request outcome, Request.parse? text = some request ∧
        Effect site d id request.tail request.verb outcome ∧
        line site d id text = conclude site id request.verb outcome := by
  unfold line
  cases hp : Request.parse? text with
  | none => exact Or.inl rfl
  | some request =>
    dsimp only
    split
    · exact Or.inl rfl
    · exact Or.inr ⟨request, _, rfl, attempt_effect request.verb, rfl⟩

end Dispatch

end RelayChat
