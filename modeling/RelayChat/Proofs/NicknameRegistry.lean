import RelayChat.Proofs.FreshRuns

/-!
# Nicknames and their holders

The directory keeps two records of who is called what: the nickname in each
session and the holder of each nickname. They are inverse to one another in every
state that a run can reach, and only valid nicknames are held. The argument is
one case for each elementary change; only a new nickname and a closed session
touch either record.
-/

namespace RelayChat

open Directory

namespace Directory

/-- Sessions and holders agree, and whatever is held is a nickname. -/
structure NicknamesAgree (d : Directory) : Prop where
  /-- A connection holds exactly the nickname in its session. -/
  holder_iff : ∀ n id, d.holder? n = some id ↔ d.nickname? id = some n
  /-- Whatever is held may be taken as a nickname. -/
  valid : ∀ n id, d.holder? n = some id → Names.isNickname n = true

variable {d d' : Directory} {id k : Handle} {n new : String} {s : Session}

theorem nickname?_eq_some_iff :
    d.nickname? id = some n ↔ ∃ s, d.session? id = some s ∧ s.nickname = some n :=
  Option.bind_eq_some_iff

/-- A nickname stays while its session does. -/
theorem nickname?_congr (h : d'.session? k = d.session? k) : d'.nickname? k = d.nickname? k := by
  rw [nickname?, h, nickname?]

@[simp] theorem nickname?_putChannel {c : Channel} :
    (d.putChannel c).nickname? k = d.nickname? k := rfl

@[simp] theorem nickname?_updateChannel {f : Channel → Channel} :
    (d.updateChannel n f).nickname? k = d.nickname? k := rfl

@[simp] theorem nickname?_leaveChannel {m : String} :
    (d.leaveChannel n m).nickname? k = d.nickname? k := rfl

theorem nickname?_openSession (hs : d.session? id = none) :
    (d.openSession id).nickname? k = d.nickname? k := by
  by_cases hk : id = k
  · subst hk
    rw [nickname?, session?_openSession, if_pos rfl, nickname?, hs]
    rfl
  · exact nickname?_congr (session?_openSession.trans (if_neg hk))

theorem nickname?_takeNickname (hs : d.session? id = some s) :
    (d.takeNickname id new).nickname? k = if id = k then some new else d.nickname? k := by
  by_cases hk : id = k
  · subst hk
    rw [if_pos rfl, nickname?, session?_takeNickname, if_pos rfl, hs]
    rfl
  · rw [if_neg hk]
    exact nickname?_congr (session?_takeNickname.trans (if_neg hk))

theorem nickname?_closeSession :
    (d.closeSession id).nickname? k = if id = k then none else d.nickname? k := by
  by_cases hk : id = k
  · rw [if_pos hk, nickname?, session?_closeSession, if_pos hk]
    rfl
  · rw [if_neg hk]
    exact nickname?_congr (session?_closeSession.trans (if_neg hk))

/-- A change that gives no new nickname leaves all nicknames as they are. -/
theorem nickname?_updateSession {f : Session → Session} (hs : d.session? id = some s)
    (hf : Session.Step s (f s)) : (d.updateSession id f).nickname? k = d.nickname? k := by
  by_cases hk : id = k
  · subst hk
    rw [nickname?, session?_updateSession, if_pos rfl, nickname?, hs]
    exact hf.nickname_eq
  · exact nickname?_congr (session?_updateSession.trans (if_neg hk))

/-- A login gives nobody another nickname. -/
theorem nickname?_logIn {site : Site} :
    (Registration.logIn site d id).1.nickname? k = d.nickname? k := by
  rcases Registration.logIn_cases site d id with ⟨he, -⟩ | ⟨s, hs, hout, hc, he⟩
  · rw [he]
  · rw [he]
    exact nickname?_updateSession hs (Session.Step.login hout hc)

namespace NicknamesAgree

theorem empty : Directory.empty.NicknamesAgree where
  holder_iff n id := by simp [nickname?]
  valid n id h := by simp at h

/-- Two connections never hold one nickname. -/
theorem eq_of_nickname? (hd : d.NicknamesAgree) (hid : d.nickname? id = some n)
    (hk : d.nickname? k = some n) : id = k := by
  have h1 := (hd.holder_iff n id).mpr hid
  have h2 := (hd.holder_iff n k).mpr hk
  rw [h1] at h2
  exact Option.some.inj h2

/-- The nickname in a session is held by its connection. -/
theorem holder?_of_session? (hd : d.NicknamesAgree) (hs : d.session? id = some s)
    (hn : s.nickname = some n) : d.holder? n = some id :=
  (hd.holder_iff n id).mpr ((nickname?_of_session? hs).trans hn)

/-- Whoever keeps its session keeps what it holds. -/
theorem holder?_of_session?_eq (hd : d.NicknamesAgree) (hd' : d'.NicknamesAgree)
    (h : d'.session? k = d.session? k) : d'.holder? n = some k ↔ d.holder? n = some k := by
  rw [hd'.holder_iff, nickname?_congr h, hd.holder_iff]

/-- Directories with the same sessions' nicknames and the same holders. -/
theorem congr (hd : d.NicknamesAgree) (hn : ∀ k, d'.nickname? k = d.nickname? k)
    (hh : ∀ n, d'.holder? n = d.holder? n) : d'.NicknamesAgree where
  holder_iff n id := by
    rw [hn, hh]
    exact hd.holder_iff n id
  valid n id h := by
    rw [hh] at h
    exact hd.valid n id h

/-- A free and valid nickname can be taken. -/
theorem takeNickname (hd : d.NicknamesAgree) (hs : d.session? id = some s)
    (valid : Names.isNickname new = true) (free : d.holder? new = none) :
    (d.takeNickname id new).NicknamesAgree where
  holder_iff n k := by
    have hold : s.nickname = some n ↔ d.holder? n = some id := by
      rw [hd.holder_iff, nickname?_of_session? hs]
    rw [holder?_takeNickname hs, nickname?_takeNickname hs]
    by_cases hn : new = n
    · subst hn
      rw [if_pos rfl]
      by_cases hk : id = k
      · subst hk
        simp
      · have hfree : d.nickname? k ≠ some new := by
          rw [Ne, ← hd.holder_iff, free]
          simp
        simp [hk, hfree]
    · rw [if_neg hn]
      by_cases hk : id = k
      · subst hk
        rw [if_pos rfl]
        by_cases hs' : s.nickname = some n
        · simp [hs', hn]
        · have hne := mt hold.mpr hs'
          simp [hs', hn, hne]
      · rw [if_neg hk, ← hd.holder_iff]
        by_cases hs' : s.nickname = some n
        · rw [if_pos hs', hold.mp hs']
          simp [hk]
        · rw [if_neg hs']
  valid n k h := by
    rw [holder?_takeNickname hs] at h
    by_cases hn : new = n
    · exact hn ▸ valid
    · rw [if_neg hn] at h
      by_cases hs' : s.nickname = some n
      · rw [if_pos hs'] at h
        cases h
      · rw [if_neg hs'] at h
        exact hd.valid n k h

/-- A connection that is forgotten gives up its nickname and nobody else's. -/
theorem closeSession (hd : d.NicknamesAgree) : (d.closeSession id).NicknamesAgree := by
  cases hs : d.session? id with
  | none =>
    have he : d.closeSession id = d := by
      rw [Directory.closeSession, hs]
    rwa [he]
  | some s =>
    have hold : ∀ n, s.nickname = some n ↔ d.holder? n = some id := fun n => by
      rw [hd.holder_iff, nickname?_of_session? hs]
    have hholder : ∀ n, (d.closeSession id).holder? n =
        if d.holder? n = some id then none else d.holder? n := fun n => by
      rw [holder?_closeSession hs]
      simp only [hold, and_self]
    constructor
    · intro n k
      rw [hholder, nickname?_closeSession]
      by_cases hn : d.holder? n = some id
      · rw [if_pos hn]
        by_cases hk : id = k
        · rw [if_pos hk]
          simp
        · rw [if_neg hk, ← hd.holder_iff, hn]
          simp [hk]
      · rw [if_neg hn]
        by_cases hk : id = k
        · subst hk
          rw [if_pos rfl]
          simp [hn]
        · rw [if_neg hk]
          exact hd.holder_iff n k
    · intro n k h
      rw [hholder] at h
      by_cases hn : d.holder? n = some id
      · rw [if_pos hn] at h
        cases h
      · rw [if_neg hn] at h
        exact hd.valid n k h

/-- Every elementary change keeps the two records in agreement. -/
theorem change (hd : d.NicknamesAgree) (h : Change id d d') : d'.NicknamesAgree := by
  cases h with
  | session hs hf =>
    exact hd.congr (fun _ => nickname?_updateSession hs hf) fun _ => holder?_updateSession
  | nickname hs valid free => exact hd.takeNickname hs valid free
  | joined => exact hd.congr (fun _ => nickname?_updateChannel) fun _ => holder?_updateChannel
  | created => exact hd.congr (fun _ => nickname?_putChannel) fun _ => holder?_putChannel
  | left => exact hd.congr (fun _ => nickname?_leaveChannel) fun _ => holder?_leaveChannel
  | topic => exact hd.congr (fun _ => nickname?_updateChannel) fun _ => holder?_updateChannel

/-- A connection that comes has no nickname yet. -/
theorem openSession (hd : d.NicknamesAgree) (hs : d.session? id = none) :
    (d.openSession id).NicknamesAgree :=
  hd.congr (fun _ => nickname?_openSession hs) fun _ => holder?_openSession

end NicknamesAgree

end Directory

namespace Relay

/-- Sessions and holders agree throughout every run. -/
theorem run_nicknamesAgree (site : Site) {events : List Event} (fresh : FreshHandles events) :
    (run site .empty events).NicknamesAgree :=
  run_keeps .empty (fun hs hd => hd.openSession hs) (fun h hd => hd.change h)
    (fun hd => hd.closeSession) fresh

/-- In every state that a run reaches, a nickname is held by a connection exactly
if that is the nickname in the connection's session. So nobody shares a nickname,
nobody holds two, no holder is without a session, and only nicknames are held. -/
theorem holders_consistent (site : Site) {events : List Event} (fresh : FreshHandles events) :
    let d := run site .empty events
    (∀ n id, d.holder? n = some id ↔ ∃ s, d.session? id = some s ∧ s.nickname = some n) ∧
      (∀ n id k s t, d.session? id = some s → d.session? k = some t →
        s.nickname = some n → t.nickname = some n → id = k) ∧
      (∀ n m id, d.holder? n = some id → d.holder? m = some id → n = m) ∧
      (∀ n id, d.holder? n = some id → (d.session? id).isSome = true) ∧
      ∀ n id, d.holder? n = some id → Names.isNickname n = true := by
  intro d
  have hd : d.NicknamesAgree := run_nicknamesAgree site fresh
  have hiff : ∀ n id, d.holder? n = some id ↔
      ∃ s, d.session? id = some s ∧ s.nickname = some n := fun n id =>
    (hd.holder_iff n id).trans nickname?_eq_some_iff
  refine ⟨hiff, ?_, ?_, ?_, hd.valid⟩
  · intro n id k s t hs ht hsn htn
    exact hd.eq_of_nickname? (nickname?_eq_some_iff.mpr ⟨s, hs, hsn⟩)
      (nickname?_eq_some_iff.mpr ⟨t, ht, htn⟩)
  · intro n m id hn hm
    obtain ⟨s, hs, hsn⟩ := (hiff n id).mp hn
    obtain ⟨t, ht, htm⟩ := (hiff m id).mp hm
    rw [hs] at ht
    cases ht
    rw [hsn] at htm
    exact Option.some.inj htm
  · intro n id hn
    obtain ⟨s, hs, -⟩ := (hiff n id).mp hn
    exact Option.isSome_of_eq_some hs

/-- Two visitors of whom the second takes the nickname that the first gave up. -/
def exchange : List Event :=
  [.connect 1, .connect 2, .line 1 "NICK ann", .line 2 "NICK ann", .line 1 "NICK eve",
    .line 2 "NICK ann", .drop 7]

/-- After the exchange the nickname belongs to the second visitor's session. -/
theorem holders_consistent_exchange :
    FreshHandles exchange ∧ (run .sample .empty exchange).holder? "ann" = some 2 ∧
      ∃ s, (run .sample .empty exchange).session? 2 = some s ∧ s.nickname = some "ann" := by
  have fresh : FreshHandles exchange := by decide
  have hheld : (run .sample .empty exchange).holder? "ann" = some 2 := by decide +kernel
  exact ⟨fresh, hheld, ((holders_consistent .sample fresh).1 "ann" 2).mp hheld⟩

end Relay

end RelayChat
