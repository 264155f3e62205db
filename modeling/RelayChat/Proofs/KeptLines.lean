import RelayChat.Proofs.CommandEffects
import RelayChat.Proofs.MessageLines

/-!
# Lines that are kept

Texts are kept for messages to come: names and farewells in sessions, topics and nicknames
in channels. `Directory.KeepsLines` says that each of them is of one line. Every
operation on the directory preserves this if the texts that it is given are of one line,
since none of them makes up a text of its own.
-/

namespace RelayChat

open Directory

/-- What is fixed of the relay and said to users is of one line. -/
structure Site.KeepsLines (site : Site) : Prop where
  /-- The relay's name. -/
  name : OneLine site.name
  /-- The name of the network. -/
  network : OneLine site.network
  /-- The version. -/
  version : OneLine site.version

/-- Every text in a session is of one line. -/
structure Session.KeepsLines (s : Session) : Prop where
  /-- The nickname. -/
  nickname : ∀ text, s.nickname = some text → OneLine text
  /-- The user name. -/
  username : ∀ text, s.username = some text → OneLine text
  /-- The host name. -/
  hostname : ∀ text, s.hostname = some text → OneLine text
  /-- The reason for leaving. -/
  farewell : ∀ text, s.farewell = some text → OneLine text

/-- Every text in a channel that is said of it is of one line. -/
structure Channel.KeepsLines (c : Channel) : Prop where
  /-- The topic. -/
  topic : OneLine c.topic
  /-- The nicknames of all who are on it. -/
  members : ∀ n ∈ c.members, OneLine n
  /-- The nicknames of its operators. -/
  operators : ∀ n ∈ c.operators, OneLine n

/-- Every text in the directory that is said to anybody is of one line. -/
structure Directory.KeepsLines (d : Directory) : Prop where
  /-- The texts in sessions. -/
  sessions : ∀ id s, d.session? id = some s → s.KeepsLines
  /-- The texts in channels. -/
  channels : ∀ name c, d.channel? name = some c → c.KeepsLines

namespace Session.KeepsLines

variable {s : Session}

theorem fresh : Session.fresh.KeepsLines :=
  ⟨nofun, nofun, nofun, nofun⟩

theorem address (hs : s.KeepsLines) : OneLine s.address :=
  OneLine.getD hs.nickname (by decide)

/-- The signature is made of kept texts, or stars for those that are missing. -/
theorem origin (hs : s.KeepsLines) : ∀ text ∈ s.origin.texts, OneLine text := by
  simp only [Session.origin, Origin.texts, List.forall_mem_cons]
  exact ⟨hs.address, OneLine.getD hs.username (by decide), OneLine.getD hs.hostname (by decide),
    List.forall_mem_nil _⟩

end Session.KeepsLines

namespace Channel.KeepsLines

variable {c left : Channel} {n old new text name : String}

theorem create (hn : OneLine n) : (Channel.create name n).KeepsLines := by
  have hset : ∀ m ∈ (∅ : NicknameSet).insert n, OneLine m := by
    intro m hm
    have he : n = m := by simpa using hm
    exact he ▸ hn
  have htopic : OneLine "" := by decide
  exact ⟨htopic, hset, hset⟩

theorem add (hc : c.KeepsLines) (hn : OneLine n) : (c.add n).KeepsLines := by
  refine ⟨hc.topic, fun m hm => ?_, hc.operators⟩
  rcases mem_members_add.mp hm with rfl | hm
  · exact hn
  · exact hc.members m hm

theorem withTopic (hc : c.KeepsLines) (ht : OneLine text) :
    Channel.KeepsLines { c with topic := text } :=
  ⟨ht, hc.members, hc.operators⟩

theorem leave (hc : c.KeepsLines) (h : leave? n c = some left) : left.KeepsLines := by
  obtain ⟨rfl, -⟩ := leave?_eq_some_iff.mp h
  exact ⟨hc.topic, fun m hm => hc.members m (mem_members_remove.mp hm).2,
    fun m hm => hc.operators m (mem_operators_remove.mp hm).2⟩

theorem rename (hc : c.KeepsLines) (hnew : OneLine new) : (c.rename old new).KeepsLines := by
  have hset : ∀ set : NicknameSet, (∀ n ∈ set, OneLine n) →
      ∀ n ∈ renameIn set old new, OneLine n := by
    intro set h n hn
    by_cases hold : old ∈ set
    · rcases (mem_renameIn hold).mp hn with rfl | ⟨-, hn⟩
      · exact hnew
      · exact h n hn
    · rw [renameIn_of_not_mem hold] at hn
      exact h n hn
  exact ⟨hc.topic, hset _ hc.members, hset _ hc.operators⟩

/-- The list of names is made of nicknames, signs and spaces. -/
theorem namesList (hc : c.KeepsLines) : OneLine c.namesList := by
  refine OneLine.intercalate (by decide) fun entry hentry => ?_
  rcases List.mem_append.mp hentry with hentry | hentry
  · obtain ⟨n, hn, rfl⟩ := List.mem_map.mp hentry
    exact OneLine.append (by decide) (hc.operators n (Std.ExtTreeSet.mem_toList.mp hn))
  · exact hc.members entry (Std.ExtTreeSet.mem_toList.mp (List.mem_filter.mp hentry).1)

end Channel.KeepsLines

namespace Directory.KeepsLines

variable {site : Site} {d : Directory} {id : Handle} {f : Session → Session}
  {g : Channel → Channel} {c : Channel} {name n : String}

theorem empty : Directory.empty.KeepsLines where
  sessions id s hs := by
    rw [session?_empty] at hs
    cases hs
  channels name c hc := by
    rw [channel?_empty] at hc
    cases hc

theorem address (hd : d.KeepsLines) (id : Handle) : OneLine (d.address id) := by
  unfold Directory.address
  cases hs : d.session? id with
  | none => decide
  | some s => exact (hd.sessions id s hs).address

theorem origin (hd : d.KeepsLines) (id : Handle) : ∀ text ∈ (d.origin id).texts, OneLine text := by
  unfold Directory.origin
  cases hs : d.session? id with
  | none => decide
  | some s => exact (hd.sessions id s hs).origin

theorem openSession (hd : d.KeepsLines) : (d.openSession id).KeepsLines where
  sessions k s hs := by
    rw [session?_openSession] at hs
    split at hs
    · cases hs
      exact Session.KeepsLines.fresh
    · exact hd.sessions k s hs
  channels := hd.channels

theorem updateSession (hd : d.KeepsLines) (hf : ∀ s, s.KeepsLines → (f s).KeepsLines) :
    (d.updateSession id f).KeepsLines where
  sessions k s hs := by
    rw [session?_updateSession] at hs
    split at hs
    · obtain ⟨before, hbefore, rfl⟩ := Option.map_eq_some_iff.mp hs
      exact hf before (hd.sessions id before hbefore)
    · exact hd.sessions k s hs
  channels := hd.channels

/-- The nickname is kept in the session and on every channel. -/
theorem takeNickname (hd : d.KeepsLines) (hn : OneLine n) : (d.takeNickname id n).KeepsLines where
  sessions k s hs := by
    rw [session?_takeNickname] at hs
    split at hs
    · obtain ⟨before, hbefore, rfl⟩ := Option.map_eq_some_iff.mp hs
      exact { hd.sessions id before hbefore with
        nickname := fun text he => Option.some.inj he ▸ hn }
    · exact hd.sessions k s hs
  channels name c hc := by
    cases hs : d.session? id with
    | none =>
      rw [Directory.takeNickname, hs] at hc
      exact hd.channels name c hc
    | some s =>
      rw [channel?_takeNickname hs] at hc
      cases hold : s.nickname with
      | none =>
        rw [hold] at hc
        exact hd.channels name c hc
      | some old =>
        rw [hold] at hc
        obtain ⟨before, hbefore, rfl⟩ := Option.map_eq_some_iff.mp hc
        exact (hd.channels name before hbefore).rename hn

theorem putChannel (hd : d.KeepsLines) (hc : c.KeepsLines) : (d.putChannel c).KeepsLines where
  sessions := hd.sessions
  channels key after hafter := by
    rw [channel?_putChannel] at hafter
    split at hafter
    · cases hafter
      exact hc
    · exact hd.channels key after hafter

theorem updateChannel (hd : d.KeepsLines)
    (hg : ∀ c, d.channel? name = some c → (g c).KeepsLines) :
    (d.updateChannel name g).KeepsLines where
  sessions := hd.sessions
  channels key after hafter := by
    rw [channel?_updateChannel] at hafter
    split at hafter
    · obtain ⟨before, hbefore, rfl⟩ := Option.map_eq_some_iff.mp hafter
      exact hg before hbefore
    · exact hd.channels key after hafter

theorem leaveChannel (hd : d.KeepsLines) : (d.leaveChannel name n).KeepsLines where
  sessions := hd.sessions
  channels key after hafter := by
    rw [channel?_leaveChannel] at hafter
    split at hafter
    · obtain ⟨before, hbefore, hleft⟩ := Option.bind_eq_some_iff.mp hafter
      exact (hd.channels name before hbefore).leave hleft
    · exact hd.channels key after hafter

theorem closeSession (hd : d.KeepsLines) : (d.closeSession id).KeepsLines where
  sessions k s hs := by
    rw [session?_closeSession] at hs
    split at hs
    · cases hs
    · exact hd.sessions k s hs
  channels key after hafter := by
    cases hs : d.session? id with
    | none =>
      rw [Directory.closeSession, hs] at hafter
      exact hd.channels key after hafter
    | some s =>
      rw [channel?_closeSession hs] at hafter
      cases hold : s.nickname with
      | none =>
        rw [hold] at hafter
        exact hd.channels key after hafter
      | some old =>
        rw [hold] at hafter
        obtain ⟨before, hbefore, hleft⟩ := Option.bind_eq_some_iff.mp hafter
        exact (hd.channels key before hbefore).leave hleft

theorem nameUser {username hostname : String} (hd : d.KeepsLines) (hu : OneLine username)
    (hh : OneLine hostname) : (d.nameUser id username hostname).KeepsLines :=
  hd.updateSession fun _ hs =>
    ⟨hs.nickname, fun _ he => Option.some.inj he ▸ hu, fun _ he => Option.some.inj he ▸ hh,
      hs.farewell⟩

/-- A login notes no text. -/
theorem logIn (hd : d.KeepsLines) : (Registration.logIn site d id).1.KeepsLines := by
  rcases Registration.logIn_cases site d id with ⟨he, -⟩ | ⟨s, -, -, -, he⟩
  · rw [he]
    exact hd
  · rw [he]
    exact hd.updateSession fun s hs => ⟨hs.nickname, hs.username, hs.hostname, hs.farewell⟩

end Directory.KeepsLines

end RelayChat
