import RelayChat.Proofs.NicknameRegistry
import RelayChat.Proofs.SessionProgress

/-!
# Channels and their members

Channels know their members by nickname only, so membership has to follow every
change of nickname and every connection that goes. `Channel.SoundIn` says that it
does: a channel is found under its own valid name, somebody is on it, its operators
are on it, and everybody on it is a user, somebody who is logged in. A new nickname
is free, hence in no channel, and reaches a channel only in the place of the old
one. When the last connection is gone there is no user, so no channel either.
-/

namespace RelayChat

open Directory

/-- Somebody who is logged in goes by this nickname. -/
def Directory.IsUser (d : Directory) (n : String) : Prop :=
  ∃ id, d.nickname? id = some n ∧ d.isLoggedIn id = true

/-- A channel that is as it should be under a name of the directory. -/
structure Channel.SoundIn (c : Channel) (d : Directory) (key : String) : Prop where
  /-- It is found under its own name. -/
  name_eq : c.name = key
  /-- It could be created under that name. -/
  valid : Names.isChannelName key = true
  /-- Somebody is on it. -/
  inhabited : ∃ n, n ∈ c.members
  /-- All its operators are on it. -/
  operators_sub : ∀ n, n ∈ c.operators → n ∈ c.members
  /-- All who are on it are users. -/
  users : ∀ n, n ∈ c.members → d.IsUser n

namespace Channel

variable {c left : Channel} {d d' : Directory} {key n old new : String}

/-- A channel of a valid name that a user creates. -/
theorem soundIn_create (valid : Names.isChannelName key = true) (hn : d.IsUser n) :
    (create key n).SoundIn d key where
  name_eq := rfl
  valid := valid
  inhabited := ⟨n, mem_members_create.mpr rfl⟩
  operators_sub _ hm := hm
  users _ hm := mem_members_create.mp hm ▸ hn

/-- Members may be called otherwise in another directory, as long as they are users. -/
theorem SoundIn.congr (hc : c.SoundIn d key) (h : ∀ n, n ∈ c.members → d.IsUser n → d'.IsUser n) :
    c.SoundIn d' key :=
  { hc with users := fun n hn => h n hn (hc.users n hn) }

/-- A user may come in. -/
theorem SoundIn.add (hc : c.SoundIn d key) (hn : d.IsUser n) : (c.add n).SoundIn d key where
  name_eq := hc.name_eq
  valid := hc.valid
  inhabited := ⟨n, mem_members_add.mpr (Or.inl rfl)⟩
  operators_sub m hm := mem_members_add.mpr (Or.inr (hc.operators_sub m hm))
  users m hm := by
    rcases mem_members_add.mp hm with rfl | hm
    · exact hn
    · exact hc.users m hm

/-- The topic does not matter. -/
theorem SoundIn.topic (hc : c.SoundIn d key) (text : String) :
    SoundIn { c with topic := text } d key :=
  ⟨hc.name_eq, hc.valid, hc.inhabited, hc.operators_sub, hc.users⟩

/-- What is left of a channel. -/
theorem SoundIn.leave (hc : c.SoundIn d key) (h : leave? n c = some left) :
    left.SoundIn d key := by
  obtain ⟨rfl, hsome⟩ := leave?_eq_some_iff.mp h
  refine ⟨hc.name_eq, hc.valid, hsome, fun m hm => ?_, fun m hm => ?_⟩
  · obtain ⟨hne, hm⟩ := mem_operators_remove.mp hm
    exact mem_members_remove.mpr ⟨hne, hc.operators_sub m hm⟩
  · exact hc.users m (mem_members_remove.mp hm).2

/-- Nobody leaves a channel who is not on it. -/
theorem SoundIn.leave?_of_not_mem (hc : c.SoundIn d key) (hn : n ∉ c.members) :
    leave? n c = some c := by
  have ho : n ∉ c.operators := fun ho => hn (hc.operators_sub n ho)
  exact leave?_eq_some_iff.mpr ⟨(remove_of_not_mem hn ho).symm, hc.inhabited⟩

/-- Nobody of the nickname that left is on what is left. -/
theorem not_mem_of_leave (h : leave? n c = some left) : n ∉ left.members := by
  obtain ⟨rfl, -⟩ := leave?_eq_some_iff.mp h
  intro hn
  exact (mem_members_remove.mp hn).1 rfl

/-- A change of nickname, when the new nickname is that of a user if the old one
was, and all others stay users. -/
theorem SoundIn.rename (hc : c.SoundIn d key) (hnew : old ∈ c.members → d'.IsUser new)
    (hothers : ∀ n, n ∈ c.members → old ≠ n → d'.IsUser n) :
    (c.rename old new).SoundIn d' key := by
  have hoperators : ∀ m, m ∈ c.operators → old ≠ m → m ∈ (c.rename old new).members := by
    intro m hm hne
    have hm := hc.operators_sub m hm
    by_cases hold : old ∈ c.members
    · exact (mem_renameIn hold).mpr (Or.inr ⟨hne, hm⟩)
    · rwa [Channel.rename, renameIn_of_not_mem hold]
  refine ⟨hc.name_eq, hc.valid, ?_, fun m hm => ?_, fun m hm => ?_⟩
  · by_cases hold : old ∈ c.members
    · exact ⟨new, (mem_renameIn hold).mpr (Or.inl rfl)⟩
    · rw [Channel.rename, renameIn_of_not_mem hold]
      exact hc.inhabited
  · by_cases hold : old ∈ c.operators
    · rcases (mem_renameIn hold).mp hm with rfl | ⟨hne, hm⟩
      · exact (mem_renameIn (hc.operators_sub old hold)).mpr (Or.inl rfl)
      · exact hoperators m hm hne
    · rw [Channel.rename, renameIn_of_not_mem hold] at hm
      exact hoperators m hm fun he => hold (he ▸ hm)
  · by_cases hold : old ∈ c.members
    · rcases (mem_renameIn hold).mp hm with rfl | ⟨hne, hm⟩
      · exact hnew hold
      · exact hothers m hm hne
    · rw [Channel.rename, renameIn_of_not_mem hold] at hm
      exact hothers m hm fun he => hold (he ▸ hm)

end Channel

namespace Directory

/-- Every channel is as it should be. -/
def ChannelsSound (d : Directory) : Prop :=
  ∀ key c, d.channel? key = some c → c.SoundIn d key

variable {d d' : Directory} {id k : Handle} {n new : String} {s : Session}

/-- A user stays one while nothing happens to its session. -/
theorem isUser_of_session?_eq (hn : d.nickname? k = some n) (hin : d.isLoggedIn k = true)
    (hs : d'.session? k = d.session? k) : d'.IsUser n := by
  refine ⟨k, (nickname?_congr hs).trans hn, ?_⟩
  rw [isLoggedIn, hs]
  exact hin

/-- A user stays one while only the session of somebody called otherwise changes. -/
theorem IsUser.of_others (huser : d.IsUser n) (hs : d.session? id = some s)
    (hne : s.nickname ≠ some n) (hothers : ∀ k, id ≠ k → d'.session? k = d.session? k) :
    d'.IsUser n := by
  obtain ⟨k, hk, hin⟩ := huser
  refine isUser_of_session?_eq hk hin (hothers k ?_)
  rintro rfl
  exact hne ((nickname?_of_session? hs).symm.trans hk)

namespace ChannelsSound

theorem empty : Directory.empty.ChannelsSound := by
  intro key c hc
  rw [channel?_empty] at hc
  cases hc

/-- A connection that comes is on no channel and stands in nobody's place. -/
theorem openSession (hd : d.ChannelsSound) (hs : d.session? id = none) :
    (d.openSession id).ChannelsSound := by
  intro key c hc
  rw [channel?_openSession] at hc
  refine (hd key c hc).congr fun n _ huser => ?_
  obtain ⟨k, hk, hin⟩ := huser
  refine isUser_of_session?_eq hk hin ?_
  rw [session?_openSession, if_neg]
  rintro rfl
  rw [nickname?, hs] at hk
  cases hk

/-- A note in a session makes nobody cease to be a user. -/
theorem updateSession {f : Session → Session} (hd : d.ChannelsSound)
    (hs : d.session? id = some s) (hf : Session.Step s (f s)) :
    (d.updateSession id f).ChannelsSound := by
  intro key c hc
  rw [channel?_updateSession] at hc
  refine (hd key c hc).congr fun n _ huser => ?_
  obtain ⟨k, hk, hin⟩ := huser
  refine ⟨k, (nickname?_updateSession hs hf).trans hk, ?_⟩
  exact isLoggedIn_of_changes (Relation.ReflTransGen.single (Change.session hs hf)) hin

/-- Whoever takes a free nickname brings it to its channels. -/
theorem takeNickname (hd : d.ChannelsSound) (agree : d.NicknamesAgree)
    (hs : d.session? id = some s) : (d.takeNickname id new).ChannelsSound := by
  have hnick : d.nickname? id = s.nickname := nickname?_of_session? hs
  have hothers : ∀ k, id ≠ k → (d.takeNickname id new).session? k = d.session? k := by
    intro k hk
    rw [session?_takeNickname, if_neg hk]
  intro key c hc
  rw [channel?_takeNickname hs] at hc
  cases hold : s.nickname with
  | none =>
    rw [hold] at hc
    have hne : ∀ n, s.nickname ≠ some n := by
      intro n he
      rw [hold] at he
      cases he
    exact (hd key c hc).congr fun n _ huser => huser.of_others hs (hne n) hothers
  | some old =>
    rw [hold] at hc
    obtain ⟨before, hbefore, rfl⟩ := Option.map_eq_some_iff.mp hc
    have hsound := hd key before hbefore
    refine hsound.rename (fun hmem => ?_) fun n hmem hne => ?_
    · -- the member of the old nickname is the connection itself, so it is logged in
      obtain ⟨k, hk, hin⟩ := hsound.users old hmem
      obtain rfl := agree.eq_of_nickname? hk (hnick.trans hold)
      refine ⟨k, ?_, isLoggedIn_takeNickname.trans hin⟩
      rw [nickname?_takeNickname hs, if_pos rfl]
    · refine (hsound.users n hmem).of_others hs (fun he => hne ?_) hothers
      exact Option.some.inj (hold.symm.trans he)

/-- Channels change while sessions stay as they are. -/
theorem of_channels (hs : ∀ k, d'.session? k = d.session? k)
    (hc : ∀ key c, d'.channel? key = some c → c.SoundIn d key) : d'.ChannelsSound := by
  intro key c hkey
  refine (hc key c hkey).congr fun n _ huser => ?_
  obtain ⟨k, hk, hin⟩ := huser
  exact isUser_of_session?_eq hk hin (hs k)

/-- One channel changes, and stays as it should be. -/
theorem updateChannel {f : Channel → Channel} {name : String} (hd : d.ChannelsSound)
    (hf : ∀ c, d.channel? name = some c → (f c).SoundIn d name) :
    (d.updateChannel name f).ChannelsSound := by
  refine of_channels (fun _ => session?_updateChannel) fun key c hc => ?_
  rw [channel?_updateChannel] at hc
  by_cases hk : name = key
  · subst hk
    rw [if_pos rfl] at hc
    obtain ⟨before, hbefore, rfl⟩ := Option.map_eq_some_iff.mp hc
    exact hf before hbefore
  · rw [if_neg hk] at hc
    exact hd key c hc

/-- Every elementary change keeps the channels as they should be. -/
theorem change (hd : d.ChannelsSound) (agree : d.NicknamesAgree) (hadm : d.SessionsAdmissible)
    (h : Change id d d') : d'.ChannelsSound := by
  have huser : d.isLoggedIn id = true → d.IsUser (d.address id) := fun hin =>
    ⟨id, hadm.nickname?_eq_address hin, hin⟩
  cases h with
  | session hs hf => exact hd.updateSession hs hf
  | nickname hs => exact hd.takeNickname agree hs
  | @joined name channel hin hc =>
    exact hd.updateChannel fun _ _ => (hd name channel hc).add (huser hin)
  | @created name hin valid =>
    refine of_channels (fun _ => session?_putChannel) fun key c hc => ?_
    rw [channel?_putChannel] at hc
    by_cases hk : name = key
    · subst hk
      cases (if_pos rfl).symm.trans hc
      exact Channel.soundIn_create valid (huser hin)
    · exact hd key c ((if_neg hk).symm.trans hc)
  | @left name channel =>
    refine of_channels (fun _ => session?_leaveChannel) fun key c hc => ?_
    rw [channel?_leaveChannel] at hc
    by_cases hk : name = key
    · subst hk
      rw [if_pos rfl] at hc
      obtain ⟨before, hbefore, hleft⟩ := Option.bind_eq_some_iff.mp hc
      exact (hd name before hbefore).leave hleft
    · rw [if_neg hk] at hc
      exact hd key c hc
  | topic text => exact hd.updateChannel fun c hc => (hd _ c hc).topic text

/-- A connection that is forgotten leaves every channel, so nobody is left who was
a user through it alone. -/
theorem closeSession (hd : d.ChannelsSound) : (d.closeSession id).ChannelsSound := by
  cases hs : d.session? id with
  | none =>
    have he : d.closeSession id = d := by
      rw [Directory.closeSession, hs]
    rwa [he]
  | some s =>
    have hothers : ∀ k, id ≠ k → (d.closeSession id).session? k = d.session? k := by
      intro k hk
      rw [session?_closeSession, if_neg hk]
    intro key c hc
    rw [channel?_closeSession hs] at hc
    cases hold : s.nickname with
    | none =>
      rw [hold] at hc
      have hne : ∀ n, s.nickname ≠ some n := by
        intro n he
        rw [hold] at he
        cases he
      exact (hd key c hc).congr fun n _ huser => huser.of_others hs (hne n) hothers
    | some old =>
      rw [hold] at hc
      obtain ⟨before, hbefore, hleft⟩ := Option.bind_eq_some_iff.mp hc
      refine ((hd key before hbefore).leave hleft).congr fun n hmem huser => ?_
      refine huser.of_others hs (fun he => ?_) hothers
      cases hold.symm.trans he
      exact Channel.not_mem_of_leave hleft hmem

end ChannelsSound

end Directory

/-- Every connection that comes goes after that. -/
def AllGone : List Event → Prop
  | [] => True
  | .connect id :: after => .drop id ∈ after ∧ AllGone after
  | .line _ _ :: after => AllGone after
  | .drop _ :: after => AllGone after

instance AllGone.decidable : (events : List Event) → Decidable (AllGone events)
  | [] => inferInstanceAs (Decidable True)
  | .connect id :: after =>
    have := AllGone.decidable after
    inferInstanceAs (Decidable (.drop id ∈ after ∧ AllGone after))
  | .line _ _ :: after => AllGone.decidable after
  | .drop _ :: after => AllGone.decidable after

theorem AllGone.of_cons {event : Event} {after : List Event} (h : AllGone (event :: after)) :
    AllGone after := by
  cases event with
  | connect => exact h.2
  | line => exact h
  | drop => exact h

namespace Relay

variable {site : Site} {d : Directory} {events : List Event} {id k : Handle}

/-- A session that is open when everybody who came is gone was open before and was
not closed. -/
theorem not_mem_of_isSome_session? (gone : AllGone events)
    (hk : ((run site d events).session? k).isSome = true) :
    (d.session? k).isSome = true ∧ .drop k ∉ events := by
  induction events generalizing d with
  | nil => exact ⟨hk, List.not_mem_nil⟩
  | cons event after ih =>
    obtain ⟨hsome, hafter⟩ := ih gone.of_cons hk
    rcases (isSome_session?_step site d event k).mp hsome with rfl | ⟨hne, hbefore⟩
    · exact absurd gone.1 hafter
    · exact ⟨hbefore, List.not_mem_cons_of_ne_of_not_mem hne.symm hafter⟩

/-- Channels are as they should be throughout every run. -/
theorem run_channelsSound (site : Site) (fresh : FreshHandles events) :
    (run site .empty events).ChannelsSound := by
  have hall : (run site .empty events).NicknamesAgree ∧
      (run site .empty events).SessionsAdmissible ∧ (run site .empty events).ChannelsSound := by
    refine run_keeps (P := fun d => d.NicknamesAgree ∧ d.SessionsAdmissible ∧ d.ChannelsSound)
      ⟨.empty, .empty, .empty⟩ ?_ ?_ ?_ fresh
    · rintro d id hs ⟨agree, hadm, hd⟩
      exact ⟨agree.openSession hs, hadm.openSession, hd.openSession hs⟩
    · rintro d d' id h ⟨agree, hadm, hd⟩
      exact ⟨agree.change h, hadm.change h, hd.change agree hadm h⟩
    · rintro d id ⟨agree, hadm, hd⟩
      exact ⟨agree.closeSession, hadm.closeSession, hd.closeSession⟩
  exact hall.2.2

/-- When everybody is gone nothing is left. -/
theorem run_eq_empty (site : Site) (fresh : FreshHandles events) (gone : AllGone events) :
    run site .empty events = .empty := by
  have hsession : ∀ k, (run site .empty events).session? k = none := by
    intro k
    rw [← Option.not_isSome_iff_eq_none]
    intro hk
    have hsome := (not_mem_of_isSome_session? gone hk).1
    rw [session?_empty] at hsome
    cases hsome
  have hnickname : ∀ id n, (run site .empty events).nickname? id ≠ some n := by
    intro id n hn
    rw [nickname?, hsession] at hn
    cases hn
  apply eq_empty_of_lookups hsession
  · intro n
    rw [Option.eq_none_iff_forall_ne_some]
    intro id hid
    exact hnickname id n (((run_nicknamesAgree site fresh).holder_iff n id).mp hid)
  · intro key
    rw [Option.eq_none_iff_forall_ne_some]
    intro c hc
    have hsound := run_channelsSound site fresh key c hc
    obtain ⟨n, hn⟩ := hsound.inhabited
    obtain ⟨id, hid, -⟩ := hsound.users n hn
    exact hnickname id n hid

/-- In every state that a run reaches, a channel is found under its own name, which
is valid; somebody is on it; its operators are on it; and everybody on it is the
nickname of exactly one session, which is logged in. When all connections that came
are gone, no session, no nickname and no channel is left. -/
theorem channels_consistent (site : Site) {events : List Event} (fresh : FreshHandles events) :
    let d := run site .empty events
    (∀ key c, d.channel? key = some c →
      c.name = key ∧ Names.isChannelName key = true ∧ (∃ n, n ∈ c.members) ∧
        (∀ n, n ∈ c.operators → n ∈ c.members) ∧
        ∀ n, n ∈ c.members → ∃ id s, d.session? id = some s ∧ s.nickname = some n ∧
          s.loggedIn = true ∧
          ∀ k t, d.session? k = some t → t.nickname = some n → k = id) ∧
      (AllGone events → d = .empty) := by
  intro d
  refine ⟨?_, run_eq_empty site fresh⟩
  intro key c hc
  have hsound : c.SoundIn d key := run_channelsSound site fresh key c hc
  refine ⟨hsound.name_eq, hsound.valid, hsound.inhabited, hsound.operators_sub, ?_⟩
  intro n hn
  obtain ⟨id, hid, hin⟩ := hsound.users n hn
  obtain ⟨s, hs, hsn⟩ := nickname?_eq_some_iff.mp hid
  refine ⟨id, s, hs, hsn, (isLoggedIn_of_session? hs).symm.trans hin, ?_⟩
  intro k t ht htn
  exact (run_nicknamesAgree site fresh).eq_of_nickname?
    (nickname?_eq_some_iff.mpr ⟨t, ht, htn⟩) hid

/-- Two users who meet on a channel, where one of them changes her nickname, and
who then leave without a word. -/
def meeting : List Event :=
  [.connect 1, .line 1 "PASS secret", .line 1 "USER ann host", .line 1 "NICK ann",
    .connect 2, .line 2 "PASS secret", .line 2 "USER bob host", .line 2 "NICK bob",
    .line 1 "JOIN #lean", .line 2 "JOIN #lean", .line 1 "NICK eve"]

/-- During the meeting everybody on the channel is a user, and nothing is left of
it afterwards. -/
theorem channels_consistent_meeting :
    FreshHandles meeting ∧ (∃ c, (run .sample .empty meeting).channel? "#lean" = some c ∧
      "eve" ∈ c.members ∧ ∃ id s, (run .sample .empty meeting).session? id = some s ∧
        s.nickname = some "eve" ∧ s.loggedIn = true) ∧
      AllGone (meeting ++ [.drop 2, .drop 1]) ∧
      run .sample .empty (meeting ++ [.drop 2, .drop 1]) = .empty := by
  have fresh : FreshHandles meeting := by decide
  have hon : (run .sample .empty meeting).isOnChannel "#lean" "eve" = true := by decide +kernel
  obtain ⟨c, hc, hmember⟩ := (Option.any_eq_true _ _).mp hon
  have hmem : "eve" ∈ c.members := Channel.isMember_iff.mp hmember
  obtain ⟨id, s, hs, hsn, hin, -⟩ :=
    ((channels_consistent .sample fresh).1 "#lean" c hc).2.2.2.2 "eve" hmem
  have freshAfter : FreshHandles (meeting ++ [.drop 2, .drop 1]) := by decide
  have gone : AllGone (meeting ++ [.drop 2, .drop 1]) := by decide
  exact ⟨fresh, ⟨c, hc, hmem, id, s, hs, hsn, hin⟩, gone,
    (channels_consistent .sample freshAfter).2 gone⟩

end Relay

end RelayChat
