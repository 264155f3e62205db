import Mathlib.Data.Finset.Image
import RelayChat.Proofs.Recipients
import RelayChat.Proofs.SoundStates
import RelayChat.Proofs.UnsaidMessages

/-!
# Channels as their members see them

A client can keep a copy of a channel, its members and its topic, by following the
messages that reach it. `Replica.hear` says how a message changes the copy, and
`Informs` that the messages of a change bring every copy that was right to the channel
as it is afterwards. It holds of every command and of every event: whoever is on a
channel hears of all that happens to it, once. So a copy that was right once stays right
for as long as the client is on the channel.
-/

namespace RelayChat

open Directory

/-! ## Copies of a channel -/

/-- What a client knows of a channel. -/
@[ext] structure Replica where
  /-- The nicknames of all who are on it. -/
  members : Finset String
  /-- The topic. -/
  topic : String
deriving DecidableEq

namespace Replica

/-- What there is to know of a channel. -/
def ofChannel (c : Channel) : Replica where
  members := c.members.toList.toFinset
  topic := c.topic

/-- The members with the nickname `new` for `old`. -/
def renamed (members : Finset String) (old new : String) : Finset String :=
  members.image fun n => if n = old then new else n

/-- What a client who follows the channel `name` makes of a message. -/
def hear (name : String) (r : Replica) (message : Message) : Replica :=
  match message.origin, message.body with
  | some (.user who _ _), .join channel =>
    if channel = name then { r with members := insert who r.members } else r
  | some (.user who _ _), .part channel _ =>
    if channel = name then { r with members := r.members.erase who } else r
  | some (.user who _ _), .quit _ => { r with members := r.members.erase who }
  | some (.user who _ _), .nick new => { r with members := renamed r.members who new }
  | some (.user _ _ _), .topic channel text =>
    if channel = name then { r with topic := text } else r
  | _, _ => r

/-- What the client makes of a series of messages. -/
def follow (name : String) (r : Replica) (messages : List Message) : Replica :=
  messages.foldl (hear name) r

variable {c : Channel} {n old new name : String} {r : Replica} {message : Message}
  {messages more : List Message}

theorem follow_append :
    follow name r (messages ++ more) = follow name (follow name r messages) more :=
  List.foldl_append

theorem mem_ofChannel : n ∈ (ofChannel c).members ↔ n ∈ c.members := by
  rw [ofChannel, List.mem_toFinset, Std.ExtTreeSet.mem_toList]

/-- A newcomer is added. -/
theorem ofChannel_add :
    ofChannel (c.add n) = { ofChannel c with members := insert n (ofChannel c).members } := by
  apply Replica.ext
  · ext m
    rw [mem_ofChannel, Channel.mem_members_add, Finset.mem_insert, mem_ofChannel, eq_comm]
  · rfl

/-- Somebody who left is taken off. -/
theorem ofChannel_remove :
    ofChannel (c.remove n) = { ofChannel c with members := (ofChannel c).members.erase n } := by
  apply Replica.ext
  · ext m
    rw [mem_ofChannel, Channel.mem_members_remove, Finset.mem_erase, mem_ofChannel, ne_comm]
  · rfl

/-- A new nickname stands where the old one was. -/
theorem ofChannel_rename :
    ofChannel (c.rename old new) =
      { ofChannel c with members := renamed (ofChannel c).members old new } := by
  apply Replica.ext
  · ext m
    rw [mem_ofChannel, Channel.rename, renamed, Finset.mem_image]
    simp only [mem_ofChannel]
    by_cases hold : old ∈ c.members
    · rw [Channel.mem_renameIn hold]
      constructor
      · rintro (rfl | ⟨hne, hm⟩)
        · exact ⟨old, hold, if_pos rfl⟩
        · exact ⟨m, hm, if_neg hne.symm⟩
      · rintro ⟨n, hn, rfl⟩
        by_cases he : n = old
        · exact Or.inl (if_pos he).symm
        · rw [if_neg he]
          exact Or.inr ⟨Ne.symm he, hn⟩
    · rw [Channel.renameIn_of_not_mem hold]
      have hkeep : ∀ n ∈ c.members, (if n = old then new else n) = n := by
        intro n hn
        exact if_neg fun he : n = old => hold (he ▸ hn)
      constructor
      · exact fun hm => ⟨m, hm, hkeep m hm⟩
      · rintro ⟨n, hn, rfl⟩
        rwa [hkeep n hn]
  · rfl

/-- Nothing is renamed where the old nickname is not. -/
theorem ofChannel_rename_of_not_mem (h : old ∉ c.members) :
    ofChannel (c.rename old new) = ofChannel c := by
  rw [ofChannel, Channel.rename, Channel.renameIn_of_not_mem h, ofChannel]

/-- Nobody is taken off who is not there. -/
theorem ofChannel_remove_of_not_mem (h : n ∉ c.members) :
    ofChannel (c.remove n) = ofChannel c := by
  have hkeep : (ofChannel c).members.erase n = (ofChannel c).members :=
    Finset.erase_eq_of_notMem fun hn => h (mem_ofChannel.mp hn)
  rw [ofChannel_remove, hkeep]

end Replica

/-! ## Messages that tell nothing of channels -/

/-- Whether a message tells of a channel's members or topic. -/
def Message.isNews (message : Message) : Bool :=
  match message.body with
  | .join _ | .part _ _ | .quit _ | .nick _ | .topic _ _ => true
  | _ => false

section News

variable {name : String} {r : Replica} {message : Message} {calls : List (Outgoing Message)}
  {id : Handle}

/-- A reply that tells of success tells nothing of channels. -/
theorem sparesSuccess_isNews : SparesSuccess Message.isNews := fun _ _ _ _ => rfl

theorem Replica.hear_of_not_news (h : message.isNews = false) : r.hear name message = r := by
  obtain ⟨origin, body⟩ := message
  rcases origin with _ | _ | _ <;> cases body <;> first | rfl | cases h

theorem Replica.follow_of_quiet (h : Lacks Message.isNews calls) :
    r.follow name (Outgoing.heardBy id calls) = r := by
  have hkeep : ∀ messages : List Message, (∀ message ∈ messages, message.isNews = false) →
      r.follow name messages = r := by
    intro messages hnews
    induction messages with
    | nil => rfl
    | cons first rest ih =>
      rw [follow, List.foldl_cons, hear_of_not_news (hnews first List.mem_cons_self)]
      exact ih fun message hmem => hnews message (List.mem_cons_of_mem first hmem)
  refine hkeep _ fun message hheard => h.eq_false ?_
  exact (Outgoing.mem_of_mem_heardBy hheard).imp (fun hsend => ⟨id, hsend⟩) fun hb => hb

end News

/-- A refusal tells nothing of channels. -/
theorem Refusal.isNews_of_mem_replies {refusal : Refusal} {server client command : String}
    {message : Message} (h : message ∈ refusal.replies server client command) :
    message.isNews = false := by
  unfold replies at h
  rcases List.mem_append.mp h with h | h
  · obtain ⟨bare, hbare, rfl⟩ := List.mem_map.mp h
    obtain ⟨number, args, rfl, -⟩ := isError_of_mem_numerics hbare
    rfl
  · split at h
    · rw [List.mem_singleton.mp h]
      rfl
    · cases h

theorem lacks_news_rejection {site : Site} {d : Directory} {id : Handle} {verb : Verb}
    {refusal : Refusal} : Lacks Message.isNews (Dispatch.rejection site d id verb refusal) :=
  Dispatch.lacks_rejection fun _ => Refusal.isNews_of_mem_replies

/-! ## Changes that are announced -/

namespace Directory

/-- A connection is on the channel of a name, and this is the channel. -/
structure Sees (d : Directory) (id : Handle) (name : String) (c : Channel) : Prop where
  /-- The channel is found under the name. -/
  channel : d.channel? name = some c
  /-- The connection's nickname is on it. -/
  member : ∃ n, d.nickname? id = some n ∧ n ∈ c.members

variable {d d' : Directory} {id k : Handle} {name n old : String} {c : Channel} {s : Session}
  {message : Message}

/-- A connection whose nickname is on a channel. -/
theorem exists_sees (hn : d.nickname? id = some n) (hon : d.isOnChannel name n = true) :
    ∃ c, d.Sees id name c := by
  obtain ⟨c, hc, hmember⟩ := (Option.any_eq_true _ _).mp hon
  exact ⟨c, hc, n, hn, Channel.isMember_iff.mp hmember⟩

/-- The origin of a connection's messages bears the name by which it is addressed. -/
theorem origin_eq_user (d : Directory) (id : Handle) :
    ∃ username hostname, d.origin id = .user (d.address id) username hostname := by
  unfold origin address
  cases d.session? id with
  | none => exact ⟨_, _, rfl⟩
  | some s => exact ⟨_, _, rfl⟩

/-- Whoever is on a channel hears once what is sent to all who are on it. -/
theorem heardBy_recipients (agree : d.NicknamesAgree) (hn : d.nickname? id = some n)
    (hmem : n ∈ c.members) :
    Outgoing.heardBy id (Outgoing.sendAll (d.recipients c none) message) = [message] := by
  have hid : id ∈ d.recipients c none :=
    (mem_recipients agree).mpr ⟨Option.some_ne_none id, n, hmem, hn⟩
  rw [Outgoing.heardBy_sendAll_of_nodup (recipients_nodup agree), if_pos hid]

end Directory

/-- Copies of channels that were right before a change are right afterwards if they
follow the messages of the change. -/
def Informs (d d' : Directory) (calls : List (Outgoing Message)) : Prop :=
  ∀ id name c c', d.Sees id name c → d'.channel? name = some c' →
    (Replica.ofChannel c).follow name (Outgoing.heardBy id calls) = Replica.ofChannel c'

section Announcements

variable {d d' : Directory} {calls more : List (Outgoing Message)} {message : Message}

/-- Nothing need be said when no channel changes. -/
theorem Informs.of_quiet (hquiet : Lacks Message.isNews calls)
    (hsame : ∀ name, d'.channel? name = d.channel? name) : Informs d d' calls := by
  intro id name c c' hsees hc'
  rw [hsame, hsees.channel] at hc'
  cases hc'
  exact Replica.follow_of_quiet hquiet

/-- More may be said that tells nothing of channels. -/
theorem Informs.append_quiet (h : Informs d d' calls) (hquiet : Lacks Message.isNews more) :
    Informs d d' (calls ++ more) := by
  intro id name c c' hsees hc'
  rw [Outgoing.heardBy_append, Replica.follow_append, Replica.follow_of_quiet hquiet]
  exact h id name c c' hsees hc'

/-- A change of one channel that is announced to all who were on it, in a message of
which those who follow other channels make nothing. -/
theorem Informs.of_announcement (name : String) {audience : Channel} (agree : d.NicknamesAgree)
    (hothers : ∀ other, name ≠ other → d'.channel? other = d.channel? other)
    (hunheard : ∀ other, name ≠ other → ∀ r : Replica, r.hear other message = r)
    (haudience : ∀ c, d.channel? name = some c → ∀ n ∈ c.members, n ∈ audience.members)
    (hheard : ∀ c c', d.channel? name = some c → d'.channel? name = some c' →
      (Replica.ofChannel c).hear name message = Replica.ofChannel c') :
    Informs d d' (Outgoing.sendAll (d.recipients audience none) message) := by
  intro id other c c' hsees hc'
  by_cases hname : name = other
  · subst hname
    obtain ⟨n, hn, hmem⟩ := hsees.member
    rw [heardBy_recipients agree hn (haudience c hsees.channel n hmem)]
    exact hheard c c' hsees.channel hc'
  · rw [hothers other hname, hsees.channel] at hc'
    cases hc'
    rw [Outgoing.heardBy_sendAll_of_nodup (recipients_nodup agree)]
    split
    · exact hunheard other hname _
    · rfl

end Announcements

/-! ## Every event announces its changes -/

section Events

variable {site : Site} {d : Directory} {id : Handle} {tail name new : String} {verb : Verb}
  {outcome : Outcome} {s : Session} {channel : Channel}

/-- A new nickname is announced to all by somebody who is logged in, and concerns no
channel otherwise. -/
theorem informs_takeNickname (hd : d.Sound) (hs : d.session? id = some s) :
    Informs d (d.takeNickname id new)
      (if d.isLoggedIn id then
        [.broadcast ((Message.ofBody (.nick new)).withOrigin (d.origin id))] else []) := by
  have hlog : d.isLoggedIn id = s.loggedIn := isLoggedIn_of_session? hs
  cases hn : s.nickname with
  | none =>
    have hout : s.loggedIn = false := hd.not_loggedIn_of_nickname_eq_none hs hn
    rw [hlog, hout, if_neg Bool.false_ne_true]
    refine Informs.of_quiet .nil fun name => ?_
    rw [channel?_takeNickname hs, hn]
  | some old =>
    intro k name c c' hsees hc'
    rw [channel?_takeNickname hs, hn, hsees.channel] at hc'
    cases hc'
    cases hin : s.loggedIn with
    | false =>
      -- nothing is said, and nothing need be: the old nickname is on no channel
      have hnot : old ∉ c.members := hd.not_mem_of_not_loggedIn hs hn hin hsees.channel
      rw [hlog, hin, if_neg Bool.false_ne_true, Replica.ofChannel_rename_of_not_mem hnot]
      rfl
    | true =>
      obtain ⟨username, hostname, horigin⟩ := origin_eq_user d id
      have haddress : d.address id = old :=
        address_of_nickname? ((nickname?_of_session? hs).trans hn)
      rw [hlog, hin, if_pos rfl, horigin, haddress, Replica.ofChannel_rename]
      rfl

/-- A newcomer to a channel is announced to all who are on it then. -/
theorem informs_announceJoin {d' : Directory} {after : Channel} (agree : d.NicknamesAgree)
    (hothers : ∀ other, name ≠ other → d'.channel? other = d.channel? other)
    (hafter : d'.channel? name = some after)
    (hadded : ∀ c, d.channel? name = some c → after = c.add (d.address id))
    (hholder : ∀ n, d'.holder? n = d.holder? n) (hsession : ∀ k, d'.session? k = d.session? k) :
    Informs d d' (ChannelCommands.announceJoin site d' id after name) := by
  obtain ⟨username, hostname, horigin⟩ := origin_eq_user d id
  unfold ChannelCommands.announceJoin
  dsimp only
  rw [recipients_congr hholder, origin_congr (hsession id), horigin]
  refine Informs.append_quiet ?_ (lacks_joinReplies sparesSuccess_isNews _ after name)
  refine Informs.of_announcement name agree hothers ?_ ?_ ?_
  · intro other hne r
    exact if_neg hne
  · intro c hc n hn
    rw [hadded c hc]
    exact Channel.mem_members_add.mpr (Or.inr hn)
  · intro c c' hc hc'
    rw [hafter] at hc'
    cases hc'
    rw [hadded c hc, Replica.ofChannel_add]
    exact if_pos rfl

/-- Whoever leaves a channel is announced to all who were on it. -/
theorem informs_leaveChannel (agree : d.NicknamesAgree) (hc : d.channel? name = some channel)
    (reason : Option String) :
    Informs d (d.leaveChannel name (d.address id))
      (Outgoing.sendAll (d.recipients channel none)
        ((Message.ofBody (.part name reason)).withOrigin (d.origin id))) := by
  obtain ⟨username, hostname, horigin⟩ := origin_eq_user d id
  rw [horigin]
  refine Informs.of_announcement name agree ?_ ?_ ?_ ?_
  · intro other hne
    rw [channel?_leaveChannel, if_neg hne]
  · intro other hne r
    exact if_neg hne
  · intro c hc' n hn
    rw [hc] at hc'
    cases hc'
    exact hn
  · intro c c' hbefore hafter
    rw [channel?_leaveChannel, if_pos rfl, hbefore] at hafter
    obtain ⟨rfl, -⟩ := leave?_eq_some_iff.mp hafter
    rw [Replica.ofChannel_remove]
    exact if_pos rfl

/-- A new topic is announced to all who are on the channel. -/
theorem informs_topic (agree : d.NicknamesAgree) (hc : d.channel? name = some channel)
    (text : String) :
    Informs d (d.updateChannel name ({ · with topic := text }))
      (Outgoing.sendAll (d.recipients channel none)
        ((Message.ofBody (.topic name text)).withOrigin (d.origin id))) := by
  obtain ⟨username, hostname, horigin⟩ := origin_eq_user d id
  rw [horigin]
  refine Informs.of_announcement name agree ?_ ?_ ?_ ?_
  · intro other hne
    rw [channel?_updateChannel, if_neg hne]
  · intro other hne r
    exact if_neg hne
  · intro c hc' n hn
    rw [hc] at hc'
    cases hc'
    exact hn
  · intro c c' hbefore hafter
    rw [channel?_updateChannel, if_pos rfl, hbefore] at hafter
    cases hafter
    exact if_pos rfl

/-- Every command announces what it changes of a channel. -/
theorem Dispatch.Effect.informs (h : Dispatch.Effect site d id tail verb outcome) (hd : d.Sound)
    (hs : d.session? id = some s) : Informs d outcome.directory outcome.calls := by
  cases h with
  | idle => exact Informs.of_quiet .nil fun _ => rfl
  | refused => exact Informs.of_quiet .nil fun _ => rfl
  | wrongPassword => exact Informs.of_quiet .nil fun _ => rfl
  | password => exact Informs.of_quiet .nil fun _ => channel?_updateSession
  | capEnd => exact Informs.of_quiet .nil fun _ => channel?_updateSession
  | capOther => exact Informs.of_quiet (.single rfl) fun _ => channel?_updateSession
  | nickname => exact informs_takeNickname hd hs
  | named username hostname =>
    refine Informs.of_quiet (lacks_logIn sparesSuccess_isNews) fun name => ?_
    exact Registration.channel?_logIn.trans channel?_updateSession
  | namedUnproven => exact Informs.of_quiet .nil fun _ => channel?_updateSession
  | joined _ _ hc =>
    refine informs_announceJoin hd.agree ?_ ?_ ?_ (fun _ => rfl) fun _ => rfl
    · intro other hne
      exact channel?_updateChannel.trans (if_neg hne)
    · refine channel?_updateChannel.trans ?_
      rw [if_pos rfl, hc, Option.map_some]
    · intro c hc'
      rw [hc] at hc'
      cases hc'
      rfl
  | created _ _ hc =>
    refine informs_announceJoin hd.agree ?_ ?_ ?_ (fun _ => rfl) fun _ => rfl
    · intro other hne
      exact channel?_putChannel.trans (if_neg hne)
    · exact channel?_putChannel.trans (if_pos rfl)
    · intro c hc'
      rw [hc] at hc'
      cases hc'
  | left reason _ hc => exact informs_leaveChannel hd.agree hc reason
  | topicShown => exact Informs.of_quiet (lacks_topicReply sparesSuccess_isNews _ _ _) fun _ => rfl
  | topicSet _ hc => exact informs_topic hd.agree hc _
  | @told holder => exact Informs.of_quiet (.single rfl) fun _ => rfl
  | spoken => exact Informs.of_quiet (.sendAll _ fun _ => rfl) fun _ => rfl
  | pong => exact Informs.of_quiet (.single rfl) fun _ => rfl
  | quit =>
    exact Informs.of_quiet (.cons rfl (.single trivial))
      fun _ => channel?_updateSession

/-- So does the conclusion of a command. -/
theorem Dispatch.Effect.informs_conclude (h : Dispatch.Effect site d id tail verb outcome)
    (hd : d.Sound) (hs : d.session? id = some s) :
    Informs d (Dispatch.conclude site id verb outcome).1
      (Dispatch.conclude site id verb outcome).2 := by
  have hinforms := h.informs hd hs
  rcases Dispatch.conclude_cases site id verb outcome with ⟨_, -, he⟩ | ⟨-, -, he⟩ | ⟨-, -, he⟩
  · rw [he]
    exact hinforms.append_quiet lacks_news_rejection
  · rw [he]
    intro k name c c' hsees hc'
    rw [Registration.channel?_logIn] at hc'
    exact hinforms.append_quiet (lacks_logIn sparesSuccess_isNews) k name c c' hsees hc'
  · rw [he]
    exact hinforms

/-- A connection that goes is announced to all if it was logged in, and was on no
channel otherwise. -/
theorem Relay.informs_drop (hd : d.Sound) (id : Handle) :
    Informs d (Relay.drop d id).1 (Relay.drop d id).2 := by
  unfold Relay.drop
  cases hs : d.session? id with
  | none => exact Informs.of_quiet .nil fun _ => rfl
  | some s =>
    dsimp only
    cases hn : s.nickname with
    | none =>
      have hout : s.loggedIn = false := hd.not_loggedIn_of_nickname_eq_none hs hn
      rw [hout, if_neg Bool.false_ne_true]
      refine Informs.of_quiet .nil fun name => ?_
      rw [channel?_closeSession hs, hn]
    | some old =>
      intro k name c c' hsees hc'
      rw [channel?_closeSession hs, hn, hsees.channel] at hc'
      obtain ⟨rfl, -⟩ := leave?_eq_some_iff.mp hc'
      cases hin : s.loggedIn with
      | false =>
        have hnot : old ∉ c.members := hd.not_mem_of_not_loggedIn hs hn hin hsees.channel
        rw [if_neg Bool.false_ne_true, Replica.ofChannel_remove_of_not_mem hnot]
        rfl
      | true =>
        have haddress : s.address = old := by
          rw [Session.address, hn, Option.getD_some]
        rw [if_pos rfl, Relay.farewell, Session.origin, haddress, Replica.ofChannel_remove]
        rfl

/-- Every event announces what it changes of a channel. -/
theorem Relay.informs_step (site : Site) (hd : d.Sound) (event : Event) :
    Informs d (Relay.step site d event).1 (Relay.step site d event).2 := by
  cases event with
  | connect id => exact Informs.of_quiet .nil fun _ => channel?_openSession
  | line id text =>
    rw [Relay.step]
    rcases Relay.receive_effect site d id text with
      he | ⟨s, request, outcome, hs, -, heffect, he⟩
    · rw [he]
      exact Informs.of_quiet .nil fun _ => rfl
    · rw [he]
      exact heffect.informs_conclude hd hs
  | drop id => exact Relay.informs_drop hd id

end Events

/-! ## Copies throughout a run -/

namespace Relay

variable {site : Site} {events later : List Event} {id : Handle} {name : String} {c c' : Channel}

/-- Whoever is on a channel all the time can follow it all the time. -/
theorem follow_run (site : Site) (fresh : FreshHandles (events ++ later))
    (hstays : ∀ soFar, soFar <+: later → ∃ c, (run site .empty (events ++ soFar)).Sees id name c)
    (hc : (run site .empty events).channel? name = some c)
    (hc' : (run site .empty (events ++ later)).channel? name = some c') :
    (Replica.ofChannel c).follow name
        (Outgoing.heardBy id (calls site (run site .empty events) later)) =
      Replica.ofChannel c' := by
  -- the past grows by the first of the later events, and the copy is right after it
  induction later generalizing events c with
  | nil =>
    rw [List.append_nil, hc] at hc'
    cases hc'
    rfl
  | cons event later ih =>
    have hsound := run_sound site fresh.past_of_append
    obtain ⟨first, hfirst⟩ := hstays [] List.nil_prefix
    rw [List.append_nil] at hfirst
    cases hc.symm.trans hfirst.channel
    obtain ⟨next, hnext⟩ := hstays [event] ⟨later, rfl⟩
    have hone := informs_step site hsound event id name c next hfirst
      (run_concat site .empty events event ▸ hnext.channel)
    rw [calls, Outgoing.heardBy_append, Replica.follow_append, hone, ← run_concat]
    rw [List.append_cons] at fresh hc'
    refine ih fresh (fun soFar hsoFar => ?_) hnext.channel hc'
    rw [List.append_assoc]
    exact hstays (event :: soFar) (List.cons_prefix_cons.mpr ⟨rfl, hsoFar⟩)

/-- Whoever knows the members and the topic of a channel that it is on, and follows the messages
of an event, knows those that the channel has afterwards, in every state that a run reaches.
So does whoever stays on the channel from then on, after any further events. -/
theorem replicas_agree (site : Site) (fresh : FreshHandles events) :
    let d := run site .empty events
    (∀ event id name c c', d.Sees id name c → (step site d event).1.channel? name = some c' →
      (Replica.ofChannel c).follow name (Outgoing.heardBy id (step site d event).2) =
        Replica.ofChannel c') ∧
      ∀ later id name c c', FreshHandles (events ++ later) →
        (∀ soFar, soFar <+: later →
          ∃ between, (run site .empty (events ++ soFar)).Sees id name between) →
        d.channel? name = some c →
        (run site .empty (events ++ later)).channel? name = some c' →
        (Replica.ofChannel c).follow name (Outgoing.heardBy id (calls site d later)) =
          Replica.ofChannel c' := by
  intro d
  refine ⟨?_, ?_⟩
  · intro event id name c c' hsees hc'
    exact informs_step site (run_sound site fresh) event id name c c' hsees hc'
  · intro later id name c c' freshLater hstays hc hc'
    exact follow_run site freshLater hstays hc hc'

/-- What happens after bob came in when ann met him: she calls herself eve, sets a topic and
goes. -/
def afterwards : List Event :=
  [.line 1 "NICK eve", .line 1 "TOPIC #lean :proofs", .drop 1]

/-- Bob, who came in when ann was there, knows in the end that he is alone with the
topic that she set. -/
theorem replicas_agree_afterwards :
    let past := meeting.take 10
    let d := run .sample .empty past
    FreshHandles (past ++ afterwards) ∧
      (∃ c c', d.Sees 2 "#lean" c ∧
        (step .sample d (.line 1 "NICK eve")).1.channel? "#lean" = some c' ∧
        (Replica.ofChannel c).follow "#lean"
          (Outgoing.heardBy 2 (step .sample d (.line 1 "NICK eve")).2) = Replica.ofChannel c') ∧
      ∃ c c', d.channel? "#lean" = some c ∧
        (run .sample .empty (past ++ afterwards)).channel? "#lean" = some c' ∧
        (Replica.ofChannel c).follow "#lean" (Outgoing.heardBy 2 (calls .sample d afterwards)) =
          Replica.ofChannel c' ∧
        c.members.toList = ["ann", "bob"] ∧ c'.members.toList = ["bob"] ∧
          c'.topic = "proofs" := by
  intro past d
  have fresh : FreshHandles (past ++ afterwards) := by decide
  have hon : ∀ soFar ∈ afterwards.inits,
      (run .sample .empty (past ++ soFar)).nickname? 2 = some "bob" ∧
        (run .sample .empty (past ++ soFar)).isOnChannel "#lean" "bob" = true := by
    decide +kernel
  have hstays : ∀ soFar, soFar <+: afterwards →
      ∃ between, (run .sample .empty (past ++ soFar)).Sees 2 "#lean" between := by
    intro soFar hsoFar
    obtain ⟨hn, hc⟩ := hon soFar ((List.mem_inits _ _).mpr hsoFar)
    exact exists_sees hn hc
  obtain ⟨c, hbefore⟩ := hstays [] List.nil_prefix
  rw [List.append_nil] at hbefore
  obtain ⟨between, hbetween⟩ := hstays [.line 1 "NICK eve"] ⟨_, rfl⟩
  rw [run_concat] at hbetween
  obtain ⟨c', hafter⟩ := hstays afterwards (List.prefix_refl afterwards)
  have freshPast : FreshHandles past := by decide
  obtain ⟨hstep, hrun⟩ := replicas_agree .sample freshPast
  have hmembers : (d.channel? "#lean").map (·.members.toList) = some ["ann", "bob"] := by
    decide +kernel
  have hleft : ((run .sample .empty (past ++ afterwards)).channel? "#lean").map
      (fun c => (c.members.toList, c.topic)) = some (["bob"], "proofs") := by
    decide +kernel
  rw [hbefore.channel, Option.map_some, Option.some.injEq] at hmembers
  rw [hafter.channel, Option.map_some, Option.some.injEq, Prod.mk.injEq] at hleft
  exact ⟨fresh,
    ⟨c, between, hbefore, hbetween.channel,
      hstep (.line 1 "NICK eve") 2 "#lean" c between hbefore hbetween.channel⟩,
    c, c', hbefore.channel, hafter.channel,
    hrun afterwards 2 "#lean" c c' fresh hstays hbefore.channel hafter.channel,
    hmembers, hleft⟩

end Relay

end RelayChat
