import RelayChat.Proofs.ChannelDelivery
import RelayChat.Proofs.SoundStates

/-!
# What a line leaves alone

A line may change the session of its sender, the sender's nickname, and channels. What it
can make of any one channel is read off the directory before it: `Touch` lists the seven
ways, each with what the line has to say for it and with where the sender has to be. The
commands are gone through once, for `Effect.touch`; what a line leaves alone, and on what
account a channel comes, goes or gets another topic, is a matter of the seven ways.

A change of nickname is the only one that goes through all channels. There it gives one
nickname for another, and the new one was in no channel before.
-/

namespace RelayChat

open Directory

/-! ## What a line says of a channel -/

namespace Request

/-- The line asks to come into the channel. -/
def Joins (text name : String) : Prop :=
  ∃ tail, Gives text .join tail ∧ Words.firstParameter tail = name

/-- The line asks to leave the channel. -/
def Parts (text name : String) : Prop :=
  ∃ tail, Gives text .part tail ∧ (Words.split tail).1 = name

/-- The line gives the channel a new topic. -/
def SetsTopic (text name topic : String) : Prop :=
  ∃ tail, Gives text .topic tail ∧ (Words.split tail).1 = name ∧ (Words.split tail).2 ≠ "" ∧
    topic = Words.trailing (Words.split tail).2

end Request

/-! ## What a line makes of a channel -/

/-- The nickname of the sender and the channel of a name after a line of the sender's, by
what they were before. -/
inductive Touch (d : Directory) (id : Handle) (text name : String) :
    Option String → Option Channel → Prop where
  /-- Nothing happens to either. -/
  | kept : Touch d id text name (d.nickname? id) (d.channel? name)
  /-- The sender takes its first nickname. -/
  | named {new : String} (hn : d.nickname? id = none) (free : d.holder? new = none) :
      Touch d id text name (some new) (d.channel? name)
  /-- The sender takes another nickname, and goes by it on the channel. -/
  | renamed {old new : String} (hn : d.nickname? id = some old) (free : d.holder? new = none) :
      Touch d id text name (some new) ((d.channel? name).map (Channel.rename · old new))
  /-- The sender comes in. -/
  | joined {n : String} {c : Channel} (hsaid : Request.Joins text name)
      (hn : d.nickname? id = some n) (hc : d.channel? name = some c) :
      Touch d id text name (some n) (some (c.add n))
  /-- The sender creates the channel. -/
  | created {n : String} (hsaid : Request.Joins text name) (hn : d.nickname? id = some n)
      (hc : d.channel? name = none) : Touch d id text name (some n) (some (.create name n))
  /-- The sender leaves, and the channel with it if nobody else is there. -/
  | left {n : String} {c : Channel} (hsaid : Request.Parts text name)
      (hn : d.nickname? id = some n) (hc : d.channel? name = some c) (hm : n ∈ c.members) :
      Touch d id text name (some n) (leave? n c)
  /-- The sender, who is on the channel, sets the topic. -/
  | topicSet {n topic : String} {c : Channel} (hsaid : Request.SetsTopic text name topic)
      (hn : d.nickname? id = some n) (hc : d.channel? name = some c) (hm : n ∈ c.members) :
      Touch d id text name (some n) (some { c with topic := topic })

section Touch

variable {site : Site} {d d' : Directory} {id : Handle} {text name tail n : String} {verb : Verb}
  {outcome : Outcome} {s : Session} {nick : Option String} {after : Option Channel}
  {c c' : Channel}

/-- A line that leaves both alone. -/
theorem Touch.of_eq (hn : d'.nickname? id = d.nickname? id)
    (hc : d'.channel? name = d.channel? name) :
    Touch d id text name (d'.nickname? id) (d'.channel? name) := by
  rw [hn, hc]
  exact kept

/-- A note in the sender's session. -/
theorem Touch.note {f : Session → Session} (hs : d.session? id = some s)
    (hf : Session.Step s (f s)) :
    Touch d id text name ((d.updateSession id f).nickname? id)
      ((d.updateSession id f).channel? name) :=
  of_eq (nickname?_updateSession hs hf) channel?_updateSession

/-- A nickname that nobody holds. -/
theorem Touch.takeNickname {new : String} (hs : d.session? id = some s)
    (free : d.holder? new = none) :
    Touch d id text name ((d.takeNickname id new).nickname? id)
      ((d.takeNickname id new).channel? name) := by
  rw [nickname?_takeNickname hs, if_pos rfl, channel?_takeNickname hs]
  cases hn : s.nickname with
  | none => exact named ((nickname?_of_session? hs).trans hn) free
  | some old => exact renamed ((nickname?_of_session? hs).trans hn) free

/-- Every command touches a channel in one of the seven ways. -/
theorem Dispatch.Effect.touch (h : Dispatch.Effect site d id tail verb outcome)
    (hd : d.SessionsAdmissible) (hs : d.session? id = some s)
    (hgives : Request.Gives text verb tail) (name : String) :
    Touch d id text name (outcome.directory.nickname? id) (outcome.directory.channel? name) := by
  -- whoever may give the command of a channel is called what it is addressed as
  have hnick : d.isLoggedIn id = true → d.nickname? id = some (d.address id) :=
    hd.nickname?_eq_address
  cases h with
  | idle => exact .kept
  | refused => exact .kept
  | wrongPassword => exact .kept
  | password hout =>
    exact .note hs (.password ((isLoggedIn_of_session? hs).symm.trans hout))
  | capEnd => exact .note hs .capEnd
  | capOther => exact .note hs .capOther
  | nickname _ free => exact .takeNickname hs free
  | named username hostname hs' hout =>
    have hstep : Session.Step _ _ := .named username hostname hout
    exact .of_eq (nickname?_logIn.trans (nickname?_updateSession hs' hstep))
      (Registration.channel?_logIn.trans channel?_updateSession)
  | namedUnproven username hostname hs' hout => exact .note hs' (.named username hostname hout)
  | joined hin _ hc =>
    by_cases hname : Words.firstParameter tail = name
    · subst hname
      rw [Outcome.done, nickname?_updateChannel, channel?_updateChannel, if_pos rfl, hc, hnick hin]
      exact .joined ⟨tail, hgives, rfl⟩ (hnick hin) hc
    · exact .of_eq nickname?_updateChannel (channel?_updateChannel.trans (if_neg hname))
  | created hin _ hc =>
    by_cases hname : Words.firstParameter tail = name
    · subst hname
      have hput : (d.putChannel (.create (Words.firstParameter tail) (d.address id))).channel?
          (Words.firstParameter tail) = some (.create (Words.firstParameter tail) (d.address id)) :=
        channel?_putChannel.trans (if_pos rfl)
      rw [Outcome.done, nickname?_putChannel, hput, hnick hin]
      exact .created ⟨tail, hgives, rfl⟩ (hnick hin) hc
    · exact .of_eq nickname?_putChannel (channel?_putChannel.trans (if_neg hname))
  | left _ hin hc hm =>
    by_cases hname : (Words.split tail).1 = name
    · subst hname
      rw [Outcome.done, nickname?_leaveChannel, channel?_leaveChannel, if_pos rfl, hc, hnick hin]
      exact .left ⟨tail, hgives, rfl⟩ (hnick hin) hc (Channel.isMember_iff.mp hm)
    · exact .of_eq nickname?_leaveChannel (channel?_leaveChannel.trans (if_neg hname))
  | topicShown => exact .kept
  | topicSet hin hc hm hr =>
    by_cases hname : (Words.split tail).1 = name
    · subst hname
      rw [Outcome.done, nickname?_updateChannel, channel?_updateChannel, if_pos rfl, hc, hnick hin]
      exact .topicSet ⟨tail, hgives, rfl, hr, rfl⟩ (hnick hin) hc (Channel.isMember_iff.mp hm)
    · exact .of_eq nickname?_updateChannel (channel?_updateChannel.trans (if_neg hname))
  | told => exact .kept
  | spoken => exact .kept
  | pong => exact .kept
  | quit farewell => exact .note hs (.farewell farewell)

/-- So does every line: the login that may follow a command changes neither. -/
theorem Relay.receive_touch (site : Site) (hd : d.SessionsAdmissible) (id : Handle)
    (text name : String) :
    Touch d id text name ((receive site d id text).1.nickname? id)
      ((receive site d id text).1.channel? name) := by
  rcases receive_effect site d id text with he | ⟨s, request, outcome, hs, hparse, heffect, he⟩
  · rw [he]
    exact .kept
  · have htouch := heffect.touch hd hs ⟨request, hparse, rfl, rfl⟩ name
    rw [he]
    rcases Dispatch.conclude_cases site id request.verb outcome with
      ⟨_, -, hc⟩ | ⟨-, -, hc⟩ | ⟨-, -, hc⟩
    · rwa [hc]
    · rwa [hc, nickname?_logIn, Registration.channel?_logIn]
    · rwa [hc]

/-! ## What follows for the channel -/

namespace Touch

/-- Others keep their places on the channel, and their signs. -/
theorem others (h : Touch d id text name nick after) (hc : d.channel? name = some c)
    (hafter : after = some c') (hold : d.nickname? id ≠ some n) (hnew : nick ≠ some n) :
    (n ∈ c'.members ↔ n ∈ c.members) ∧ (n ∈ c'.operators ↔ n ∈ c.operators) := by
  -- the sender is somebody else, whatever it is called
  have hne : ∀ {m}, d.nickname? id = some m → m ≠ n := fun hm he => hold (he ▸ hm)
  cases h with
  | kept =>
    cases hc.symm.trans hafter
    exact ⟨Iff.rfl, Iff.rfl⟩
  | named =>
    cases hc.symm.trans hafter
    exact ⟨Iff.rfl, Iff.rfl⟩
  | renamed hn =>
    rw [hc] at hafter
    cases hafter
    have hnew : _ ≠ n := fun he => hnew (congrArg some he)
    exact ⟨Channel.mem_renameIn_of_ne (hne hn) hnew, Channel.mem_renameIn_of_ne (hne hn) hnew⟩
  | joined _ hn hc' =>
    cases hc.symm.trans hc'
    cases hafter
    exact ⟨Channel.mem_members_add.trans (or_iff_right (hne hn)), Iff.rfl⟩
  | created _ _ hc' => cases hc.symm.trans hc'
  | left _ hn hc' =>
    cases hc.symm.trans hc'
    obtain ⟨rfl, -⟩ := leave?_eq_some_iff.mp hafter
    exact ⟨Channel.mem_members_remove.trans (and_iff_right (hne hn)),
      Channel.mem_operators_remove.trans (and_iff_right (hne hn))⟩
  | topicSet _ _ hc' =>
    cases hc.symm.trans hc'
    cases hafter
    exact ⟨Iff.rfl, Iff.rfl⟩

/-- A channel goes when its only member leaves it. -/
theorem gone (h : Touch d id text name nick after) (hc : d.channel? name = some c)
    (hafter : after = none) : Request.Parts text name ∧
      ∃ n, d.nickname? id = some n ∧ ∀ m, m ∈ c.members ↔ m = n := by
  cases h with
  | kept => cases hc.symm.trans hafter
  | named => cases hc.symm.trans hafter
  | renamed =>
    rw [hc] at hafter
    cases hafter
  | joined => cases hafter
  | created => cases hafter
  | left hsaid hn hc' hm =>
    cases hc.symm.trans hc'
    have honly := leave?_eq_none_iff.mp hafter
    exact ⟨hsaid, _, hn, fun m => ⟨honly m, fun he => he ▸ hm⟩⟩
  | topicSet => cases hafter

/-- A channel comes when somebody asks to come in, who is then its only member. -/
theorem appeared (h : Touch d id text name nick after) (hc : d.channel? name = none)
    (hafter : after = some c') : Request.Joins text name ∧
      ∃ n, d.nickname? id = some n ∧ c' = .create name n := by
  cases h with
  | kept => cases hc.symm.trans hafter
  | named => cases hc.symm.trans hafter
  | renamed =>
    rw [hc] at hafter
    cases hafter
  | joined _ _ hc' => cases hc.symm.trans hc'
  | created hsaid hn =>
    cases hafter
    exact ⟨hsaid, _, hn, rfl⟩
  | left _ _ hc' => cases hc.symm.trans hc'
  | topicSet _ _ hc' => cases hc.symm.trans hc'

/-- A topic changes at the word of a member. -/
theorem topic (h : Touch d id text name nick after) (hc : d.channel? name = some c)
    (hafter : after = some c') (hne : c'.topic ≠ c.topic) :
    Request.SetsTopic text name c'.topic ∧ ∃ n, d.nickname? id = some n ∧ n ∈ c.members := by
  cases h with
  | kept =>
    cases hc.symm.trans hafter
    exact absurd rfl hne
  | named =>
    cases hc.symm.trans hafter
    exact absurd rfl hne
  | renamed =>
    rw [hc] at hafter
    cases hafter
    exact absurd rfl hne
  | joined _ _ hc' =>
    cases hc.symm.trans hc'
    cases hafter
    exact absurd rfl hne
  | created _ _ hc' => cases hc.symm.trans hc'
  | left _ _ hc' =>
    cases hc.symm.trans hc'
    obtain ⟨rfl, -⟩ := leave?_eq_some_iff.mp hafter
    exact absurd rfl hne
  | topicSet hsaid hn hc' hm =>
    cases hc.symm.trans hc'
    cases hafter
    exact ⟨hsaid, _, hn, hm⟩

end Touch

end Touch

/-! ## The frame -/

/-- What the line `text` of connection `id` may have changed between the two directories. -/
structure Directory.Frame (id : Handle) (text : String) (d d' : Directory) : Prop where
  /-- All others have the sessions that they had. -/
  sessions : ∀ k, k ≠ id → d'.session? k = d.session? k
  /-- All others hold the nicknames that they held, and no others. -/
  holders : ∀ n k, k ≠ id → (d'.holder? n = some k ↔ d.holder? n = some k)
  /-- On a channel that stays, everybody but the sender keeps place and sign. -/
  others : ∀ name c c', d.channel? name = some c → d'.channel? name = some c' →
    ∀ n, d.nickname? id ≠ some n → d'.nickname? id ≠ some n →
      (n ∈ c'.members ↔ n ∈ c.members) ∧ (n ∈ c'.operators ↔ n ∈ c.operators)
  /-- A channel goes only if the sender asks to leave it and nobody else is on it. -/
  gone : ∀ name c, d.channel? name = some c → d'.channel? name = none →
    Request.Parts text name ∧ ∃ n, d.nickname? id = some n ∧ ∀ m, m ∈ c.members ↔ m = n
  /-- A channel comes only if the sender asks to come into it. -/
  appeared : ∀ name c', d.channel? name = none → d'.channel? name = some c' →
    Request.Joins text name ∧ ∃ n, d.nickname? id = some n ∧ c' = .create name n
  /-- A topic changes only if the sender sets it and is on the channel. -/
  topics : ∀ name c c', d.channel? name = some c → d'.channel? name = some c' →
    c'.topic ≠ c.topic →
      Request.SetsTopic text name c'.topic ∧ ∃ n, d.nickname? id = some n ∧ n ∈ c.members

namespace Relay

/-- The frame of a line. In every state that a run reaches, whatever a connection says, nothing of
others changes but what comes of the sender's own coming, leaving, renaming or setting a topic,
as `Frame` says in detail. -/
theorem line_frame (site : Site) {events : List Event} (fresh : FreshHandles events)
    (id : Handle) (text : String) :
    let d := run site .empty events
    Directory.Frame id text d (step site d (.line id text)).1 := by
  intro d
  have hd : d.Sound := run_sound site fresh
  have hchanges := receive_changes site d id text
  have hagree : (receive site d id text).1.NicknamesAgree :=
    keeps_of_changes (fun h hd => hd.change h) hchanges hd.agree
  have hsessions : ∀ k, k ≠ id → (receive site d id text).1.session? k = d.session? k :=
    fun k hk => session?_of_changes_ne hchanges hk.symm
  have htouch := receive_touch site hd.admissible id text
  exact {
    sessions := hsessions
    holders := fun _ k hk => hd.agree.holder?_of_session?_eq hagree (hsessions k hk)
    others := fun name _ _ hc hc' _ hold hnew => (htouch name).others hc hc' hold hnew
    gone := fun name _ hc hc' => (htouch name).gone hc hc'
    appeared := fun name _ hc hc' => (htouch name).appeared hc hc'
    topics := fun name _ _ hc hc' hne => (htouch name).topic hc hc' hne }

/-- At the gathering zoe, who has created the channel, takes a nickname that comes before
all others. She keeps her sign, and bob keeps his nickname and his place without one. -/
theorem line_frame_gathering :
    let d := run .sample .empty gathering
    let d' := (step .sample d (.line 1 "NICK Zed")).1
    FreshHandles gathering ∧ d.nickname? 1 = some "zoe" ∧ d'.nickname? 1 = some "Zed" ∧
      d'.holder? "bob" = some 2 ∧ ∃ c c', d.channel? "#lean" = some c ∧
        d'.channel? "#lean" = some c' ∧ c.nameEntries = ["@zoe", "ann", "bob"] ∧
        c'.nameEntries = ["@Zed", "ann", "bob"] ∧
        ("bob" ∈ c'.members ↔ "bob" ∈ c.members) ∧
        ("bob" ∈ c'.operators ↔ "bob" ∈ c.operators) := by
  intro d d'
  have fresh : FreshHandles gathering := by decide
  have hbefore : d.nickname? 1 = some "zoe" := by decide +kernel
  have hafter : d'.nickname? 1 = some "Zed" := by decide +kernel
  have hheld : d.holder? "bob" = some 2 := by decide +kernel
  have hnames : (d.channel? "#lean").map Channel.nameEntries = some ["@zoe", "ann", "bob"] := by
    decide +kernel
  have hnames' : (d'.channel? "#lean").map Channel.nameEntries = some ["@Zed", "ann", "bob"] := by
    decide +kernel
  obtain ⟨c, hc, hnames⟩ := Option.map_eq_some_iff.mp hnames
  obtain ⟨c', hc', hnames'⟩ := Option.map_eq_some_iff.mp hnames'
  have hframe : Directory.Frame 1 "NICK Zed" d d' := line_frame .sample fresh 1 "NICK Zed"
  exact ⟨fresh, hbefore, hafter, (hframe.holders "bob" 2 (by decide)).mpr hheld, c, c', hc, hc',
    hnames, hnames', hframe.others "#lean" c c' hc hc' "bob" (by rw [hbefore]; decide)
      (by rw [hafter]; decide)⟩

end Relay

end RelayChat
