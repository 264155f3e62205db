import RelayChat.Proofs.ChannelRegistry
import RelayChat.Proofs.Greetings
import RelayChat.Proofs.KeptLines
import RelayChat.Proofs.UnsaidMessages

/-!
# One line for each message

Nobody can make the relay send more lines than it means to. What a command notes or
repeats are parts of its own line, and what it announces besides are texts that were kept
before. So if every line that comes in is of one line, then so is every text that is kept
(`Relay.step_keepsLines`), no message has a line end in its texts (`Relay.step_lines`), and
each goes out as a single line, whatever the clients write.
-/

namespace RelayChat

open Directory

section Commands

variable {site : Site} {d : Directory} {id : Handle} {tail client command : String}
  {verb : Verb} {outcome : Outcome} {refusal : Refusal} {body : Body} {channel : Channel}
  {message : Message}

/-! ## Replies -/

/-- A message of the relay's own. -/
theorem Site.KeepsLines.reply (hsite : site.KeepsLines)
    (hbody : ∀ text ∈ body.texts, OneLine text) :
    Lacks Message.isBroken [site.reply id (.ofBody body)] := by
  refine .single (Message.isBroken_withOrigin.mpr ⟨?_, hbody⟩)
  exact List.forall_mem_singleton.mpr hsite.name

/-- A message of a user's. -/
theorem Directory.KeepsLines.said (hd : d.KeepsLines) (id : Handle)
    (hbody : ∀ text ∈ body.texts, OneLine text) :
    ((Message.ofBody body).withOrigin (d.origin id)).isBroken = false :=
  Message.isBroken_withOrigin.mpr ⟨hd.origin id, hbody⟩

/-- The greeting tells who is greeted and what is fixed of the relay. -/
theorem lacks_isBroken_logIn (hsite : site.KeepsLines) (hd : d.KeepsLines) :
    Lacks Message.isBroken (Registration.logIn site d id).2 := by
  rcases Registration.logIn_cases site d id with ⟨he, -⟩ | ⟨s, hs, -, -, he⟩
  · rw [he]
    exact .nil
  · have hclient : OneLine s.address := (hd.sessions id s hs).address
    have hsignature : OneLine s.signature := Origin.oneLine_render (hd.sessions id s hs).origin
    have htime : OneLine (CivilTime.render site.created) := CivilTime.oneLine_render _
    rw [he]
    refine .append (.append (.append (hsite.reply ?_) (hsite.reply ?_)) (hsite.reply ?_))
      (hsite.reply ?_)
    all_goals
      simp +decide [Body.texts, hclient, hsignature, htime, hsite.name, hsite.network,
        hsite.version]

/-- A refusal repeats the command and what it quotes, and is worded in full. -/
theorem Refusal.oneLine_of_mem_numerics (hclient : OneLine client) (hcommand : OneLine command)
    (hquoted : ∀ text, refusal.quoted? = some text → OneLine text)
    (hmem : message ∈ refusal.numerics client command) :
    ∀ text ∈ message.body.texts, OneLine text := by
  revert message
  cases refusal <;>
    simp_all +decide [numerics, quoted?, Reply.needMoreParams, Reply.noTextToSend,
      Reply.noRecipient, Reply.noOrigin, Reply.noNicknameGiven, Reply.nicknameInUse,
      Reply.erroneousNickname, Reply.notRegistered, Reply.alreadyRegistered,
      Reply.noSuchChannel, Reply.noSuchNick, Reply.notOnChannel, Reply.passwordMismatch,
      Reply.numbered, Message.ofBody, Body.texts]

theorem Verb.oneLine_spelling (verb : Verb) : OneLine verb.spelling := by
  cases verb <;> decide

theorem isBroken_closingLink {reason : String} (h : OneLine reason) :
    (Refusal.closingLink reason).isBroken = false := by
  refine Message.isBroken_ofBody.mpr (List.forall_mem_singleton.mpr ?_)
  simp +decide only [OneLine.append_iff, h, and_self]

/-- What the sender of a refused command is told. -/
theorem lacks_isBroken_rejection (hsite : site.KeepsLines) (hd : d.KeepsLines)
    (hquoted : ∀ text, refusal.quoted? = some text → OneLine text) :
    Lacks Message.isBroken (Dispatch.rejection site d id verb refusal) := by
  refine Dispatch.lacks_rejection fun message hmem => ?_
  rcases List.mem_append.mp hmem with h | h
  · obtain ⟨bare, hbare, rfl⟩ := List.mem_map.mp h
    have htexts : ∀ text ∈ bare.body.texts, OneLine text :=
      Refusal.oneLine_of_mem_numerics (hd.address id) verb.oneLine_spelling hquoted hbare
    exact Message.isBroken_withOrigin.mpr ⟨List.forall_mem_singleton.mpr hsite.name, htexts⟩
  · split at h
    · rw [List.mem_singleton.mp h]
      exact isBroken_closingLink (by decide)
    · cases h

/-! ## What commands say -/

theorem lacks_isBroken_topicReply {name topic : String} (hsite : site.KeepsLines)
    (hclient : OneLine client) (hname : OneLine name) (htopic : OneLine topic) :
    Lacks Message.isBroken [site.reply id (ChannelCommands.topicReply client name topic)] := by
  unfold ChannelCommands.topicReply
  split
  · refine hsite.reply ?_
    simp +decide [Body.texts, hclient, hname]
  · refine hsite.reply ?_
    simp [Body.texts, hclient, hname, htopic]

/-- A newcomer is announced, and told the topic and the names that are kept. -/
theorem lacks_isBroken_announceJoin {name : String} (hsite : site.KeepsLines)
    (hd : d.KeepsLines) (hname : OneLine name) (hc : channel.KeepsLines) :
    Lacks Message.isBroken (ChannelCommands.announceJoin site d id channel name) := by
  have hclient : OneLine (d.address id) := hd.address id
  have hnames : OneLine channel.namesList := hc.namesList
  unfold ChannelCommands.announceJoin
  dsimp only
  refine .append (.sendAll _ fun _ => hd.said id (List.forall_mem_singleton.mpr hname)) ?_
  refine ((lacks_isBroken_topicReply hsite hclient hname hc.topic).append (hsite.reply ?_)).append
    (hsite.reply ?_)
  all_goals simp +decide [Body.texts, hclient, hname, hnames]

/-- A reason is the text in which it was given. -/
theorem OneLine.of_reason? {text reason : String} (h : OneLine text)
    (hreason : Words.reason? text = some reason) : OneLine reason := by
  unfold Words.reason? at hreason
  split at hreason
  · cases hreason
  · cases hreason
    exact h

/-- A command notes texts of one line only. -/
theorem Dispatch.Effect.keepsLines (h : Dispatch.Effect site d id tail verb outcome)
    (hd : d.KeepsLines) (htail : OneLine tail) : outcome.directory.KeepsLines := by
  cases h with
  | idle => exact hd
  | refused => exact hd
  | wrongPassword => exact hd
  | password =>
    exact hd.updateSession fun s hs => ⟨hs.nickname, hs.username, hs.hostname, hs.farewell⟩
  | capEnd =>
    exact hd.updateSession fun s hs => ⟨hs.nickname, hs.username, hs.hostname, hs.farewell⟩
  | capOther =>
    exact hd.updateSession fun s hs => ⟨hs.nickname, hs.username, hs.hostname, hs.farewell⟩
  | nickname => exact hd.takeNickname htail.firstParameter
  | named username hostname _ _ _ huser hhost =>
    exact (hd.nameUser (huser ▸ htail.split_fst) (hhost ▸ htail.split_snd.split_fst)).logIn
  | namedUnproven username hostname _ _ _ huser hhost =>
    exact hd.nameUser (huser ▸ htail.split_fst) (hhost ▸ htail.split_snd.split_fst)
  | joined _ _ hc =>
    exact hd.updateChannel fun _ _ => (hd.channels _ _ hc).add (hd.address id)
  | created => exact hd.putChannel (Channel.KeepsLines.create (hd.address id))
  | left => exact hd.leaveChannel
  | topicShown => exact hd
  | topicSet =>
    exact hd.updateChannel fun c hc => (hd.channels _ c hc).withTopic htail.split_snd.trailing
  | told => exact hd
  | spoken => exact hd
  | pong => exact hd
  | quit farewell hfarewell =>
    refine hd.updateSession fun s hs => ⟨hs.nickname, hs.username, hs.hostname, ?_⟩
    intro text htext
    exact htail.trailing.of_reason? (hfarewell.symm.trans htext)

/-- A command says nothing that has a line end in it. -/
theorem Dispatch.Effect.lacks_isBroken (h : Dispatch.Effect site d id tail verb outcome)
    (hsite : site.KeepsLines) (hd : d.KeepsLines) (htail : OneLine tail) :
    Lacks Message.isBroken outcome.calls := by
  have hafter : outcome.directory.KeepsLines := h.keepsLines hd htail
  have hword : OneLine (Words.split tail).1 := htail.split_fst
  have hparameter : OneLine (Words.firstParameter tail) := htail.firstParameter
  have hfree : OneLine (Words.trailing (Words.split tail).2) := htail.split_snd.trailing
  cases h with
  | idle => exact .nil
  | refused => exact .nil
  | wrongPassword => exact .nil
  | password => exact .nil
  | capEnd => exact .nil
  | capOther => exact hsite.reply (by decide)
  | nickname =>
    dsimp only [Outcome.done]
    split
    · exact .single (hd.said id (List.forall_mem_singleton.mpr hparameter))
    · exact .nil
  | named username hostname _ _ _ huser hhost =>
    have hnamed : (d.nameUser id username hostname).KeepsLines :=
      hd.nameUser (huser ▸ hword) (hhost ▸ htail.split_snd.split_fst)
    exact lacks_isBroken_logIn hsite hnamed
  | namedUnproven => exact .nil
  | joined _ _ hc =>
    exact lacks_isBroken_announceJoin hsite hafter hparameter
      ((hd.channels _ _ hc).add (hd.address id))
  | created =>
    exact lacks_isBroken_announceJoin hsite hafter hparameter
      (Channel.KeepsLines.create (hd.address id))
  | left reason _ _ _ hreason =>
    refine .sendAll _ fun _ => hd.said id (List.forall_mem_cons.mpr ⟨hword, fun text htext => ?_⟩)
    exact hfree.of_reason? (hreason.symm.trans (Option.mem_toList.mp htext))
  | topicShown _ hc =>
    exact lacks_isBroken_topicReply hsite (hd.address id) hword (hd.channels _ _ hc).topic
  | topicSet => exact .sendAll _ fun _ => hd.said id (by simp [Body.texts, hword, hfree])
  | told => exact .single (hd.said id (by simp [Body.texts, hword, hfree]))
  | spoken => exact .sendAll _ fun _ => hd.said id (by simp [Body.texts, hword, hfree])
  | pong => exact hsite.reply (by simp [Body.texts, hsite.name, hparameter])
  | quit farewell hfarewell =>
    have hreason : OneLine (farewell.getD Conversation.defaultReason) :=
      OneLine.getD (fun text htext => htail.trailing.of_reason? (hfarewell.symm.trans htext))
        (by decide)
    exact .cons (isBroken_closingLink hreason) (.single trivial)

/-- Nor does its conclusion note any other text. -/
theorem Dispatch.Effect.keepsLines_conclude (h : Dispatch.Effect site d id tail verb outcome)
    (hd : d.KeepsLines) (htail : OneLine tail) :
    (Dispatch.conclude site id verb outcome).1.KeepsLines := by
  have hafter : outcome.directory.KeepsLines := h.keepsLines hd htail
  rcases Dispatch.conclude_cases site id verb outcome with
    ⟨refusal, -, he⟩ | ⟨-, -, he⟩ | ⟨-, -, he⟩
  · rw [he]
    exact hafter
  · rw [he]
    exact hafter.logIn
  · rw [he]
    exact hafter

/-- Nor does it say one. -/
theorem Dispatch.Effect.lacks_isBroken_conclude (h : Dispatch.Effect site d id tail verb outcome)
    (hsite : site.KeepsLines) (hd : d.KeepsLines) (htail : OneLine tail) :
    Lacks Message.isBroken (Dispatch.conclude site id verb outcome).2 := by
  have hafter : outcome.directory.KeepsLines := h.keepsLines hd htail
  have hcalls : Lacks Message.isBroken outcome.calls := h.lacks_isBroken hsite hd htail
  rcases Dispatch.conclude_cases site id verb outcome with
    ⟨refusal, hr, he⟩ | ⟨-, -, he⟩ | ⟨-, -, he⟩
  · have hquoted : ∀ text, refusal.quoted? = some text → OneLine text := by
      intro text htext
      rcases h.quotes hr text htext with rfl | rfl
      · exact htail.firstParameter
      · exact htail.split_fst
    rw [he]
    exact hcalls.append (lacks_isBroken_rejection hsite hafter hquoted)
  · rw [he]
    exact hcalls.append (lacks_isBroken_logIn hsite hafter)
  · rw [he]
    exact hcalls

end Commands

/-- What is handed on in another form was said before. -/
theorem Outgoing.exists_of_sent_map {α β : Type} {f : α → β} {calls : List (Outgoing α)}
    {payload : β} (h : (∃ who, .send who payload ∈ calls.map (map f)) ∨
      .broadcast payload ∈ calls.map (map f)) :
    ∃ said, ((∃ who, .send who said ∈ calls) ∨ .broadcast said ∈ calls) ∧ f said = payload := by
  rcases h with ⟨who, h⟩ | h
  · obtain ⟨call, hcall, he⟩ := List.mem_map.mp h
    cases call with
    | send k said =>
      cases he
      exact ⟨said, Or.inl ⟨_, hcall⟩, rfl⟩
    | broadcast => cases he
    | disconnect => cases he
  · obtain ⟨call, hcall, he⟩ := List.mem_map.mp h
    cases call with
    | send => cases he
    | broadcast said =>
      cases he
      exact ⟨said, Or.inr hcall, rfl⟩
    | disconnect => cases he

namespace Relay

variable {site : Site} {d : Directory} {event : Event} {events : List Event}

/-- What an event leaves is of one line, if what it says is. -/
theorem step_keepsLines (site : Site) (hd : d.KeepsLines)
    (hline : ∀ id text, event = .line id text → OneLine text) :
    (step site d event).1.KeepsLines := by
  cases event with
  | connect id => exact hd.openSession
  | line id text =>
    rw [step]
    rcases receive_effect site d id text with he | ⟨s, request, outcome, -, hparse, heffect, he⟩
    · rw [he]
      exact hd
    · rw [he]
      exact heffect.keepsLines_conclude hd ((hline id text rfl).of_parse? hparse)
  | drop id =>
    rw [step, drop_directory]
    exact hd.closeSession

/-- So is what it makes the relay send. -/
theorem step_lines (hsite : site.KeepsLines) (hd : d.KeepsLines)
    (hline : ∀ id text, event = .line id text → OneLine text) :
    Lacks Message.isBroken (step site d event).2 := by
  cases event with
  | connect id => exact .nil
  | line id text =>
    rw [step]
    rcases receive_effect site d id text with he | ⟨s, request, outcome, -, hparse, heffect, he⟩
    · rw [he]
      exact .nil
    · rw [he]
      exact heffect.lacks_isBroken_conclude hsite hd ((hline id text rfl).of_parse? hparse)
  | drop id =>
    rw [step]
    unfold drop
    cases hs : d.session? id with
    | none => exact .nil
    | some s =>
      have hkeeps : s.KeepsLines := hd.sessions id s hs
      have hreason : OneLine (s.farewell.getD defaultFarewell) :=
        OneLine.getD hkeeps.farewell (by decide)
      dsimp only
      split
      · exact .single (Message.isBroken_withOrigin.mpr
          ⟨hkeeps.origin, List.forall_mem_singleton.mpr hreason⟩)
      · exact .nil

/-- Every text that is kept after a run is of one line, if all lines that came in were. -/
theorem run_keepsLines (site : Site) (hd : d.KeepsLines)
    (hlines : ∀ id text, Event.line id text ∈ events → OneLine text) :
    (run site d events).KeepsLines := by
  induction events generalizing d with
  | nil => exact hd
  | cons event after ih =>
    have hnext : (step site d event).1.KeepsLines :=
      step_keepsLines site hd fun id text he => hlines id text (he ▸ List.mem_cons_self)
    exact ih hnext fun id text hmem => hlines id text (List.mem_cons_of_mem event hmem)

/-- By induction on the events, with what is kept as the invariant. -/
theorem lacks_isBroken_calls (hsite : site.KeepsLines) (hd : d.KeepsLines)
    (hlines : ∀ id text, Event.line id text ∈ events → OneLine text) :
    Lacks Message.isBroken (calls site d events) := by
  induction events generalizing d with
  | nil => exact .nil
  | cons event after ih =>
    have hline : ∀ id text, event = .line id text → OneLine text := fun id text he =>
      hlines id text (he ▸ List.mem_cons_self)
    have hcalls : Lacks Message.isBroken (step site d event).2 := step_lines hsite hd hline
    refine hcalls.append (ih (step_keepsLines site hd hline) fun id text hmem => ?_)
    exact hlines id text (List.mem_cons_of_mem event hmem)

/-- One line for each message. If the relay's name, the name of its network and its version
hold no line end, and no line that comes in holds one, then every text that is handed on
in a run is one line and its line end. -/
theorem single_lines (site : Site) (hname : OneLine site.name) (hnetwork : OneLine site.network)
    (hversion : OneLine site.version) {events : List Event}
    (hlines : ∀ id text, Event.line id text ∈ events → OneLine text) {text : String}
    (hsent : (∃ who, .send who text ∈
        (calls site .empty events).map (Outgoing.map Message.render)) ∨
      .broadcast text ∈ (calls site .empty events).map (Outgoing.map Message.render)) :
    ∃ line, text = line ++ "\r\n" ∧ ∀ c ∈ line.toList, c ≠ '\r' ∧ c ≠ '\n' := by
  have hcalls : Lacks Message.isBroken (calls site .empty events) :=
    lacks_isBroken_calls ⟨hname, hnetwork, hversion⟩ .empty hlines
  obtain ⟨message, hmessage, rfl⟩ := Outgoing.exists_of_sent_map hsent
  exact Message.render_of_isBroken_eq_false (hcalls.eq_false hmessage)

/-- What ann's change of nickname at the meeting makes the relay send is one line. -/
theorem single_lines_meeting :
    OneLine Site.sample.name ∧ OneLine Site.sample.network ∧ OneLine Site.sample.version ∧
      (∀ id text, Event.line id text ∈ meeting → OneLine text) ∧
      .broadcast ":ann!ann@host NICK :eve\r\n" ∈
        (calls .sample .empty meeting).map (Outgoing.map Message.render) ∧
      ∃ line, ":ann!ann@host NICK :eve\r\n" = line ++ "\r\n" ∧
        ∀ c ∈ line.toList, c ≠ '\r' ∧ c ≠ '\n' := by
  have hname : OneLine Site.sample.name := by decide
  have hnetwork : OneLine Site.sample.network := by decide
  have hversion : OneLine Site.sample.version := by decide
  have hlines : ∀ id text, Event.line id text ∈ meeting → OneLine text := by
    simp +decide [meeting, or_imp, forall_and]
  have hsent : .broadcast ":ann!ann@host NICK :eve\r\n" ∈
      (calls .sample .empty meeting).map (Outgoing.map Message.render) := by
    decide +kernel
  exact ⟨hname, hnetwork, hversion, hlines, hsent,
    single_lines .sample hname hnetwork hversion hlines (Or.inr hsent)⟩

end Relay

end RelayChat
