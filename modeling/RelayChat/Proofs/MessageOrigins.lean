import RelayChat.Proofs.Calls
import RelayChat.Proofs.Greetings
import RelayChat.Proofs.SoundStates

/-!
# Whom messages come from

An event makes calls in three voices only. The relay answers the connection that caused
the event, under its own name, and a numbered reply first names whom it is for, as that
connection is called when the event is over. The closing message goes to the same
connection and bears no name. Everything else is said by a user who is logged in, under
the signature that the connection had when the event began. So nobody speaks in another's
name, and nobody else is sent a numbered reply.

`Utterance` lists the calls. A command makes no others (`Effect.utters`), and since a
login changes no nickname, neither does a line.
-/

namespace RelayChat

open Directory

/-- A call of an event that connection `id` causes in the directory `d`, after which it
is addressed as `client`. -/
inductive Utterance (site : Site) (d : Directory) (id : Handle) (client : String) :
    Outgoing Message → Prop where
  /-- The relay answers the connection, and names it first in a numbered reply. -/
  | answer (body : Body)
      (hclient : ∀ number args, body = .numeric number args → args.head? = some client) :
      Utterance site d id client (site.reply id (.ofBody body))
  /-- The connection is told why it is closed. -/
  | closing (text : String) : Utterance site d id client (.send id (.ofBody (.error text)))
  /-- Its user speaks to somebody. -/
  | told (who : Handle) (body : Body) (hin : d.isLoggedIn id = true)
      (hbody : ∀ number args, body ≠ .numeric number args) :
      Utterance site d id client (.send who ((Message.ofBody body).withOrigin (d.origin id)))
  /-- Its user speaks to all. -/
  | announced (body : Body) (hin : d.isLoggedIn id = true)
      (hbody : ∀ number args, body ≠ .numeric number args) :
      Utterance site d id client (.broadcast ((Message.ofBody body).withOrigin (d.origin id)))
  /-- The connection is to be closed. -/
  | cut : Utterance site d id client (.disconnect id)

/-- All of these calls are utterances of the event. -/
def Utters (site : Site) (d : Directory) (id : Handle) (client : String)
    (calls : List (Outgoing Message)) : Prop :=
  Outgoing.All (Utterance site d id client) calls

namespace Utters

variable {site : Site} {d : Directory} {id : Handle} {client : String} {body : Body}

/-- A numbered reply that names the connection. -/
theorem numbered (number : Numeric) (args : List String) :
    Utters site d id client [site.reply id (Reply.numbered number (client :: args))] := by
  refine .single (Utterance.answer _ ?_)
  intro _ _ he
  cases he
  rfl

/-- One message of the user's for several connections. -/
theorem sendAll (ids : List Handle) (hin : d.isLoggedIn id = true)
    (hbody : ∀ number args, body ≠ .numeric number args) :
    Utters site d id client
      (Outgoing.sendAll ids ((Message.ofBody body).withOrigin (d.origin id))) :=
  Outgoing.All.sendAll ids fun who => Utterance.told who body hin hbody

end Utters

section Events

variable {site : Site} {d d' : Directory} {id k : Handle} {tail : String} {verb : Verb}
  {outcome : Outcome} {s : Session}

/-! ## What a login and a refusal say -/

theorem Directory.address_eq (d : Directory) (id : Handle) :
    d.address id = (d.nickname? id).getD Session.unset := by
  unfold address nickname? Session.address
  cases d.session? id <;> rfl

/-- A login changes nobody's name. -/
theorem address_logIn : (Registration.logIn site d id).1.address k = d.address k := by
  rw [address_eq, nickname?_logIn, address_eq]

/-- The greeting names whom it greets. -/
theorem utters_logIn (d' : Directory) :
    Utters site d id (d'.address id) (Registration.logIn site d' id).2 := by
  rcases Registration.logIn_cases site d' id with ⟨he, -⟩ | ⟨s, hs, -, -, he⟩
  · rw [he]
    exact .nil
  · have haddress : d'.address id = s.address := by
      rw [address, hs, Option.map_some, Option.getD_some]
    rw [he, haddress]
    exact (((Utters.numbered _ _).append (Utters.numbered _ _)).append
      (Utters.numbered _ _)).append (Utters.numbered _ _)

/-- A refusal is answered to the sender, which is named in every numbered reply. -/
theorem utters_rejection (d' : Directory) (verb : Verb) (refusal : Refusal) :
    Utters site d id (d'.address id) (Dispatch.rejection site d' id verb refusal) := by
  unfold Dispatch.rejection
  refine .append ?_ ?_
  · intro call hmem
    obtain ⟨message, hreply, rfl⟩ := List.mem_map.mp hmem
    rcases List.mem_append.mp hreply with hreply | hreply
    · obtain ⟨bare, hbare, rfl⟩ := List.mem_map.mp hreply
      obtain ⟨number, args, rfl, -⟩ := Refusal.isError_of_mem_numerics hbare
      exact Utters.numbered number args _ (List.mem_singleton_self _)
    · split at hreply
      · cases List.mem_singleton.mp hreply
        exact Utterance.closing _
      · cases hreply
  · split
    · exact .single Utterance.cut
    · exact .nil

/-! ## What commands say -/

/-- The topic of a channel, or that it has none, is told under the sender's name. -/
theorem utters_topicReply (client name topic : String) :
    Utters site d id client [site.reply id (ChannelCommands.topicReply client name topic)] := by
  unfold ChannelCommands.topicReply
  split
  · exact Utters.numbered _ _
  · exact Utters.numbered _ _

/-- A newcomer speaks to all on the channel and is answered alone. Coming in changes
no session, so that the newcomer's signature is the one that it had before. -/
theorem utters_announceJoin {channel : Channel} {name : String} (hin : d.isLoggedIn id = true)
    (hsession : d'.session? id = d.session? id) :
    Utters site d id (d'.address id)
      (ChannelCommands.announceJoin site d' id channel name) := by
  unfold ChannelCommands.announceJoin
  dsimp only
  rw [origin_congr hsession]
  refine .append (Utters.sendAll _ hin (by simp)) ?_
  exact ((utters_topicReply _ _ _).append (Utters.numbered _ _)).append (Utters.numbered _ _)

/-- A command makes no other calls. -/
theorem Dispatch.Effect.utters (h : Dispatch.Effect site d id tail verb outcome) :
    Utters site d id (outcome.directory.address id) outcome.calls := by
  cases h with
  | idle => exact .nil
  | refused => exact .nil
  | wrongPassword => exact .nil
  | password => exact .nil
  | capEnd => exact .nil
  | capOther => exact .single (Utterance.answer _ (by simp))
  | nickname =>
    dsimp only [Outcome.done]
    cases hin : d.isLoggedIn id with
    | false => exact .nil
    | true => exact .single (Utterance.announced _ hin (by simp))
  | named =>
    dsimp only [Outcome.done]
    rw [address_logIn]
    exact utters_logIn _
  | namedUnproven => exact .nil
  | joined hin => exact utters_announceJoin hin rfl
  | created hin => exact utters_announceJoin hin rfl
  | left reason hin => exact Utters.sendAll _ hin (by simp)
  | topicShown => exact utters_topicReply _ _ _
  | topicSet hin => exact Utters.sendAll _ hin (by simp)
  | told hin => exact .single (Utterance.told _ _ hin (by simp))
  | spoken hin => exact Utters.sendAll _ hin (by simp)
  | pong => exact .single (Utterance.answer _ (by simp))
  | quit => exact .cons (Utterance.closing _) (.single Utterance.cut)

/-- Nor does the conclusion of a command. -/
theorem Dispatch.Effect.utters_conclude (h : Dispatch.Effect site d id tail verb outcome) :
    Utters site d id ((Dispatch.conclude site id verb outcome).1.address id)
      (Dispatch.conclude site id verb outcome).2 := by
  rcases Dispatch.conclude_cases site id verb outcome with
    ⟨refusal, -, he⟩ | ⟨-, -, he⟩ | ⟨-, -, he⟩
  · rw [he]
    exact h.utters.append (utters_rejection _ verb refusal)
  · rw [he, address_logIn]
    exact h.utters.append (utters_logIn _)
  · rw [he]
    exact h.utters

/-- Nor does any event. -/
theorem Relay.utters_step (site : Site) (d : Directory) (event : Event) :
    Utters site d event.handle ((Relay.step site d event).1.address event.handle)
      (Relay.step site d event).2 := by
  cases event with
  | connect id => exact .nil
  | line id text =>
    rw [Relay.step]
    rcases Relay.receive_effect site d id text with he | ⟨s, request, outcome, -, -, heffect, he⟩
    · rw [he]
      exact .nil
    · rw [he]
      exact heffect.utters_conclude
  | drop id =>
    rw [Relay.step, Relay.drop]
    cases hs : d.session? id with
    | none => exact .nil
    | some s =>
      have horigin : d.origin id = s.origin := by
        rw [origin, hs, Option.map_some, Option.getD_some]
      dsimp only
      cases hin : s.loggedIn with
      | false => exact .nil
      | true =>
        rw [if_pos rfl, Relay.farewell, ← horigin]
        exact Outgoing.All.single
          (Utterance.announced _ ((isLoggedIn_of_session? hs).trans hin) (by simp))

end Events

namespace Relay

/-- Origins are authentic. A call of an event answers or closes the connection that caused it,
or it bears the very names that the session of that connection had before the event and that
no other has. A numbered reply names first whom it is for. -/
theorem origins_authentic (site : Site) {events : List Event} (fresh : FreshHandles events)
    (event : Event) {call : Outgoing Message}
    (hcall : call ∈ (step site (run site .empty events) event).2) :
    let d := run site .empty events
    let after := (step site d event).1
    let id := event.handle
    (∃ body, call = .send id ⟨some (.server site.name), body⟩ ∧
        ∀ number args, body = .numeric number args →
          args.head? = some ((after.nickname? id).getD "*")) ∨
      (∃ text, call = .send id ⟨none, .error text⟩) ∨
      (∃ s nickname username hostname body, d.session? id = some s ∧
        s.nickname = some nickname ∧ s.username = some username ∧ s.hostname = some hostname ∧
        (∀ number args, body ≠ .numeric number args) ∧
        (∀ k t, k ≠ id → d.session? k = some t → t.nickname ≠ some nickname) ∧
        (call = .broadcast ⟨some (.user nickname username hostname), body⟩ ∨
          ∃ who, call = .send who ⟨some (.user nickname username hostname), body⟩)) ∨
      call = .disconnect id := by
  intro d after id
  have hd : d.Sound := run_sound site fresh
  -- what the user says bears the names of a session that is logged in
  have huser : d.isLoggedIn id = true → ∃ s nickname username hostname,
      d.session? id = some s ∧ s.nickname = some nickname ∧ s.username = some username ∧
        s.hostname = some hostname ∧ d.origin id = .user nickname username hostname ∧
        ∀ k t, k ≠ id → d.session? k = some t → t.nickname ≠ some nickname := by
    intro hin
    obtain ⟨s, hs, hsin⟩ := isLoggedIn_iff.mp hin
    obtain ⟨nickname, username, hostname, hn, hu, hh, -, horigin⟩ :=
      hd.admissible.exists_names hs hsin
    refine ⟨s, nickname, username, hostname, hs, hn, hu, hh, horigin, ?_⟩
    intro k t hk ht htn
    exact hk (hd.agree.eq_of_nickname? (nickname?_eq_some_iff.mpr ⟨t, ht, htn⟩)
      (nickname?_eq_some_iff.mpr ⟨s, hs, hn⟩))
  have hutterance : Utterance site d id (after.address id) call :=
    utters_step site d event call hcall
  cases hutterance with
  | answer body hclient =>
    rw [address_eq] at hclient
    exact Or.inl ⟨body, rfl, hclient⟩
  | closing text => exact Or.inr (Or.inl ⟨text, rfl⟩)
  | told who body hin hbody =>
    obtain ⟨s, nickname, username, hostname, hs, hn, hu, hh, horigin, hown⟩ := huser hin
    rw [horigin]
    exact Or.inr (Or.inr (Or.inl ⟨s, nickname, username, hostname, body, hs, hn, hu, hh, hbody,
      hown, Or.inr ⟨who, rfl⟩⟩))
  | announced body hin hbody =>
    obtain ⟨s, nickname, username, hostname, hs, hn, hu, hh, horigin, hown⟩ := huser hin
    rw [horigin]
    exact Or.inr (Or.inr (Or.inl ⟨s, nickname, username, hostname, body, hs, hn, hu, hh, hbody,
      hown, Or.inl rfl⟩))
  | cut => exact Or.inr (Or.inr (Or.inr rfl))

/-- What bob says at the meeting comes from the names in his session. -/
theorem origins_authentic_meeting :
    FreshHandles meeting ∧
      .send 1 ⟨some (.user "bob" "bob" "host"), .privmsg "#lean" "hello"⟩ ∈
        (step .sample (run .sample .empty meeting) (.line 2 "PRIVMSG #lean :hello")).2 ∧
      ∃ s, (run .sample .empty meeting).session? 2 = some s ∧ s.nickname = some "bob" ∧
        s.username = some "bob" ∧ s.hostname = some "host" := by
  have fresh : FreshHandles meeting := by decide
  have hcall : .send 1 ⟨some (.user "bob" "bob" "host"), .privmsg "#lean" "hello"⟩ ∈
      (step .sample (run .sample .empty meeting) (.line 2 "PRIVMSG #lean :hello")).2 := by
    decide +kernel
  refine ⟨fresh, hcall, ?_⟩
  rcases origins_authentic .sample fresh (.line 2 "PRIVMSG #lean :hello") hcall with
    ⟨body, he, -⟩ | ⟨text, he⟩ | ⟨s, nickname, username, hostname, body, hs, hn, hu, hh, -, -, he⟩ |
      he
  · cases he
  · cases he
  · rcases he with he | ⟨who, he⟩
    · cases he
    · cases he
      exact ⟨s, hs, hn, hu, hh⟩
  · cases he

end Relay

end RelayChat
