import Mathlib.Logic.Relation
import RelayChat.Proofs.CommandEffects

/-!
# Elementary changes of the directory

A line changes the directory by a few elementary changes of its sender's: a note
in its session, a new nickname, or a change of one channel. `Directory.Change`
lists them with their guards, and `Effect.changes_conclude` shows that what a line
does is a sequence of them. An invariant has to survive no more than these changes, a
connection that comes and a connection that goes.
-/

namespace RelayChat

open Relation

/-! ## What happens to one session -/

/-- A note in a session that leaves its nickname alone. -/
inductive Session.Step : Session → Session → Prop where
  /-- The right password was given. -/
  | password {s : Session} (hout : s.loggedIn = false) : Step s { s with passwordGiven := true }
  /-- The negotiation of capabilities has ended. -/
  | capEnd {s : Session} : Step s { s with capStarted := true, capEnded := true }
  /-- Something else was said about capabilities. -/
  | capOther {s : Session} : Step s { s with capStarted := true }
  /-- The user name and the host name were given. -/
  | named {s : Session} (username hostname : String) (hout : s.loggedIn = false) :
      Step s { s with username := some username, hostname := some hostname }
  /-- A farewell was given, or taken back. -/
  | farewell {s : Session} (farewell : Option String) : Step s { s with farewell := farewell }
  /-- The session is logged in, with nothing missing. -/
  | login {s : Session} (hout : s.loggedIn = false) (hc : s.isComplete = true) :
      Step s { s with loggedIn := true }

namespace Session.Step

variable {s t : Session}

theorem nickname_eq (h : Session.Step s t) : t.nickname = s.nickname := by
  cases h <;> rfl

end Session.Step

namespace Directory

/-! ## What happens to the directory -/

/-- One elementary change that connection `id` makes. -/
inductive Change (id : Handle) : Directory → Directory → Prop where
  /-- A note in its session. -/
  | session {d : Directory} {f : Session → Session} {s : Session} (hs : d.session? id = some s)
      (hf : Session.Step s (f s)) : Change id d (d.updateSession id f)
  /-- A nickname that is valid and free. -/
  | nickname {d : Directory} {s : Session} {new : String} (hs : d.session? id = some s)
      (valid : Names.isNickname new = true) (free : d.holder? new = none) :
      Change id d (d.takeNickname id new)
  /-- Coming into a channel on which it is not yet. -/
  | joined {d : Directory} {name : String} {channel : Channel} (hin : d.isLoggedIn id = true)
      (hc : d.channel? name = some channel) (hm : channel.isMember (d.address id) = false) :
      Change id d (d.updateChannel name fun _ => channel.add (d.address id))
  /-- Creating a channel of a valid name. -/
  | created {d : Directory} {name : String} (hin : d.isLoggedIn id = true)
      (valid : Names.isChannelName name = true) (hc : d.channel? name = none) :
      Change id d (d.putChannel (.create name (d.address id)))
  /-- Leaving a channel on which it is. -/
  | left {d : Directory} {name : String} {channel : Channel} (hin : d.isLoggedIn id = true)
      (hc : d.channel? name = some channel) (hm : channel.isMember (d.address id) = true) :
      Change id d (d.leaveChannel name (d.address id))
  /-- Setting the topic of a channel on which it is. -/
  | topic {d : Directory} {name : String} {channel : Channel} (text : String)
      (hin : d.isLoggedIn id = true) (hc : d.channel? name = some channel)
      (hm : channel.isMember (d.address id) = true) :
      Change id d (d.updateChannel name ({ · with topic := text }))

variable {d d' : Directory} {id k : Handle} {s : Session}

theorem isLoggedIn_of_session? (hs : d.session? id = some s) : d.isLoggedIn id = s.loggedIn := by
  rw [isLoggedIn, hs, Option.any_some]

theorem nickname?_of_session? (hs : d.session? id = some s) : d.nickname? id = s.nickname := by
  rw [nickname?, hs, Option.bind_some]

theorem origin_of_session? (hs : d.session? id = some s) : d.origin id = s.origin := by
  rw [origin, hs, Option.map_some, Option.getD_some]

theorem address_of_nickname? {n : String} (hn : d.nickname? id = some n) : d.address id = n := by
  unfold nickname? at hn
  obtain ⟨s, hs, hn⟩ := Option.bind_eq_some_iff.mp hn
  rw [address, hs, Option.map_some, Option.getD_some, Session.address, hn, Option.getD_some]

theorem isLoggedIn_iff :
    d.isLoggedIn id = true ↔ ∃ s, d.session? id = some s ∧ s.loggedIn = true := by
  simp [isLoggedIn, Option.any_eq_true]

/-- A connection changes nobody else's session. -/
theorem Change.session?_ne (h : Change id d d') (hk : id ≠ k) :
    d'.session? k = d.session? k := by
  cases h with
  | session => rw [session?_updateSession, if_neg hk]
  | nickname => rw [session?_takeNickname, if_neg hk]
  | joined => rw [session?_updateChannel]
  | created => rw [session?_putChannel]
  | left => rw [session?_leaveChannel]
  | topic => rw [session?_updateChannel]

/-- What a connection does to its own session: one note, a nickname, or nothing. -/
theorem Change.session?_self (h : Change id d d') (hs : d.session? id = some s) :
    ∃ t, d'.session? id = some t ∧
      (Session.Step s t ∨ (∃ n, t = { s with nickname := some n }) ∨ t = s) := by
  cases h with
  | session hs' hf =>
    rw [hs] at hs'
    cases hs'
    rw [session?_updateSession, if_pos rfl, hs]
    exact ⟨_, rfl, Or.inl hf⟩
  | nickname =>
    rw [session?_takeNickname, if_pos rfl, hs]
    exact ⟨_, rfl, Or.inr (Or.inl ⟨_, rfl⟩)⟩
  | joined => exact ⟨s, session?_updateChannel.trans hs, Or.inr (Or.inr rfl)⟩
  | created => exact ⟨s, session?_putChannel.trans hs, Or.inr (Or.inr rfl)⟩
  | left => exact ⟨s, session?_leaveChannel.trans hs, Or.inr (Or.inr rfl)⟩
  | topic => exact ⟨s, session?_updateChannel.trans hs, Or.inr (Or.inr rfl)⟩

/-- No change opens or closes a session. -/
theorem Change.isSome_session? (h : Change id d d') :
    (d'.session? k).isSome = (d.session? k).isSome := by
  by_cases hk : id = k
  · subst hk
    cases h with
    | session => rw [session?_updateSession, if_pos rfl, Option.isSome_map]
    | nickname => rw [session?_takeNickname, if_pos rfl, Option.isSome_map]
    | joined => rw [session?_updateChannel]
    | created => rw [session?_putChannel]
    | left => rw [session?_leaveChannel]
    | topic => rw [session?_updateChannel]
  · rw [h.session?_ne hk]

/-- What survives one change survives any number of them. -/
theorem keeps_of_changes {P : Directory → Prop}
    (hchange : ∀ {d d'}, Change id d d' → P d → P d') (h : ReflTransGen (Change id) d d')
    (hd : P d) : P d' := by
  induction h with
  | refl => exact hd
  | tail _ hstep ih => exact hchange hstep ih

end Directory

namespace Dispatch

open Directory

variable {site : Site} {d : Directory} {id : Handle} {tail : String} {verb : Verb}
  {outcome : Outcome} {s : Session}

/-- A login is one change, or none. -/
theorem logIn_changes (site : Site) (d : Directory) (id : Handle) :
    ReflTransGen (Change id) d (Registration.logIn site d id).1 := by
  rcases Registration.logIn_cases site d id with ⟨he, -⟩ | ⟨s, hs, hout, hc, he⟩
  · rw [he]
  · rw [he]
    exact ReflTransGen.single (Change.session hs (Session.Step.login hout hc))

/-- The effect of a command on the directory is a sequence of changes. -/
theorem Effect.changes (h : Effect site d id tail verb outcome) (hs : d.session? id = some s) :
    ReflTransGen (Change id) d outcome.directory := by
  have hlog : d.isLoggedIn id = s.loggedIn := isLoggedIn_of_session? hs
  cases h with
  | idle => exact ReflTransGen.refl
  | refused => exact ReflTransGen.refl
  | wrongPassword => exact ReflTransGen.refl
  | password hout =>
    exact ReflTransGen.single (Change.session hs (Session.Step.password (hlog ▸ hout)))
  | capEnd => exact ReflTransGen.single (Change.session hs Session.Step.capEnd)
  | capOther => exact ReflTransGen.single (Change.session hs Session.Step.capOther)
  | nickname valid free => exact ReflTransGen.single (Change.nickname hs valid free)
  | named username hostname hs' hout =>
    rw [hs] at hs'
    cases hs'
    have hnote : Change id d (d.nameUser id username hostname) :=
      Change.session hs (Session.Step.named username hostname hout)
    exact (ReflTransGen.single hnote).trans (logIn_changes site _ id)
  | namedUnproven username hostname hs' hout =>
    rw [hs] at hs'
    cases hs'
    exact ReflTransGen.single
      (Change.session hs (Session.Step.named username hostname hout))
  | joined hin _ hc hm => exact ReflTransGen.single (Change.joined hin hc hm)
  | created hin valid hc => exact ReflTransGen.single (Change.created hin valid hc)
  | left _ hin hc hm => exact ReflTransGen.single (Change.left hin hc hm)
  | topicShown => exact ReflTransGen.refl
  | topicSet hin hc hm => exact ReflTransGen.single (Change.topic _ hin hc hm)
  | told => exact ReflTransGen.refl
  | spoken => exact ReflTransGen.refl
  | pong => exact ReflTransGen.refl
  | quit farewell =>
    exact ReflTransGen.single (Change.session hs (Session.Step.farewell farewell))

/-- The effect of a concluded command is a sequence of changes as well. -/
theorem Effect.changes_conclude (h : Effect site d id tail verb outcome)
    (hs : d.session? id = some s) :
    ReflTransGen (Change id) d (conclude site id verb outcome).1 := by
  rcases conclude_cases site id verb outcome with ⟨_, -, he⟩ | ⟨-, -, he⟩ | ⟨-, -, he⟩
  · rw [he]
    exact h.changes hs
  · rw [he]
    exact (h.changes hs).trans (logIn_changes site outcome.directory id)
  · rw [he]
    exact h.changes hs

end Dispatch

end RelayChat
