import RelayChat.Proofs.FreshRuns

/-!
# How sessions develop

While it lasts, a session goes through single notes and changes of nickname. Its
state at any point of a run is an advance of the fresh session, and of its own
state at every earlier point. What one note preserves therefore holds of every
session: a host name comes with the user name, a session that is logged in lacks
nothing, and a login is for good and fixes both names.
-/

namespace RelayChat

open Relation Directory

namespace Session

/-- One thing that may happen to a session. -/
def Move (s t : Session) : Prop :=
  Step s t ∨ ∃ n, t = { s with nickname := some n }

/-- Anything that may happen to a session while it lasts. -/
def Advance : Session → Session → Prop :=
  ReflTransGen Move

/-- What holds of a session at all times. -/
structure Admissible (s : Session) : Prop where
  /-- The two names are given together. -/
  hostname_of_username : s.username.isSome = true → s.hostname.isSome = true
  /-- Nobody is logged in without a nickname, a user name and the password. -/
  of_loggedIn : s.loggedIn = true →
    s.nickname.isSome = true ∧ s.username.isSome = true ∧ s.passwordGiven = true

/-- A login is not taken back, and fixes the user name and the host name. -/
def Keeps (s t : Session) : Prop :=
  s.loggedIn = true → t.loggedIn = true ∧ t.username = s.username ∧ t.hostname = s.hostname

variable {s t u : Session}

theorem Admissible.fresh : Session.fresh.Admissible where
  hostname_of_username h := by cases h
  of_loggedIn h := by cases h

theorem Admissible.move (hs : s.Admissible) (h : Move s t) : t.Admissible := by
  rcases h with h | ⟨n, rfl⟩
  · cases h with
    | password hout =>
      exact ⟨hs.hostname_of_username, fun hin => absurd (hout.symm.trans hin) Bool.false_ne_true⟩
    | capEnd => exact ⟨hs.hostname_of_username, hs.of_loggedIn⟩
    | capOther => exact ⟨hs.hostname_of_username, hs.of_loggedIn⟩
    | named _ _ hout =>
      exact ⟨fun _ => rfl, fun hin => absurd (hout.symm.trans hin) Bool.false_ne_true⟩
    | farewell => exact ⟨hs.hostname_of_username, hs.of_loggedIn⟩
    | login _ hc =>
      refine ⟨hs.hostname_of_username, fun _ => ?_⟩
      simp only [isComplete, Bool.and_eq_true] at hc
      exact ⟨hc.1.1.1, hc.1.1.2, hc.1.2⟩
  · exact ⟨hs.hostname_of_username, fun hin => ⟨rfl, (hs.of_loggedIn hin).2⟩⟩

theorem Keeps.trans (hst : Keeps s t) (htu : Keeps t u) : Keeps s u := by
  intro hin
  obtain ⟨htin, htuser, hthost⟩ := hst hin
  obtain ⟨huin, huuser, huhost⟩ := htu htin
  exact ⟨huin, huuser.trans htuser, huhost.trans hthost⟩

theorem Move.keeps (h : Move s t) : Keeps s t := by
  intro hin
  rcases h with h | ⟨n, rfl⟩
  · cases h with
    | named _ _ hout => exact absurd (hout.symm.trans hin) Bool.false_ne_true
    | login => exact ⟨rfl, rfl, rfl⟩
    | password => exact ⟨hin, rfl, rfl⟩
    | capEnd => exact ⟨hin, rfl, rfl⟩
    | capOther => exact ⟨hin, rfl, rfl⟩
    | farewell => exact ⟨hin, rfl, rfl⟩
  · exact ⟨hin, rfl, rfl⟩

theorem Advance.keeps (h : Advance s t) : Keeps s t := by
  induction h with
  | refl => exact fun hin => ⟨hin, rfl, rfl⟩
  | tail _ hmove ih => exact ih.trans hmove.keeps

end Session

namespace Directory

variable {d d' : Directory} {id k : Handle} {s t : Session}

/-- A connection's changes leave all other sessions alone. -/
theorem session?_of_changes_ne (h : ReflTransGen (Change id) d d') (hk : id ≠ k) :
    d'.session? k = d.session? k :=
  keeps_of_changes (P := fun d' => d'.session? k = d.session? k)
    (fun hchange he => (hchange.session?_ne hk).trans he) h rfl

/-- A connection's changes advance its session. -/
theorem advance_of_changes (h : ReflTransGen (Change id) d d') (hs : d.session? id = some s) :
    ∃ t, d'.session? id = some t ∧ Session.Advance s t := by
  refine keeps_of_changes (P := fun d' => ∃ t, d'.session? id = some t ∧ Session.Advance s t)
    ?_ h ⟨s, hs, ReflTransGen.refl⟩
  rintro d d' hchange ⟨t, ht, hst⟩
  obtain ⟨u, hu, hstep | hnick | rfl⟩ := hchange.session?_self ht
  · exact ⟨u, hu, hst.tail (Or.inl hstep)⟩
  · exact ⟨u, hu, hst.tail (Or.inr hnick)⟩
  · exact ⟨u, hu, hst⟩

/-- A note that leaves logins alone. -/
theorem isLoggedIn_updateSession {f : Session → Session}
    (hf : ∀ s, (f s).loggedIn = s.loggedIn) :
    (d.updateSession id f).isLoggedIn k = d.isLoggedIn k := by
  unfold isLoggedIn
  rw [session?_updateSession]
  by_cases hk : id = k
  · subst hk
    rw [if_pos rfl]
    cases d.session? id with
    | none => rfl
    | some s => exact hf s
  · rw [if_neg hk]

theorem isLoggedIn_takeNickname {n : String} :
    (d.takeNickname id n).isLoggedIn k = d.isLoggedIn k := by
  unfold isLoggedIn
  rw [session?_takeNickname]
  by_cases hk : id = k
  · subst hk
    rw [if_pos rfl]
    cases d.session? id <;> rfl
  · rw [if_neg hk]

/-- A connection's changes take no login back. -/
theorem isLoggedIn_of_changes (h : ReflTransGen (Change id) d d')
    (hin : d.isLoggedIn k = true) : d'.isLoggedIn k = true := by
  obtain ⟨s, hs, hsin⟩ := isLoggedIn_iff.mp hin
  by_cases hk : id = k
  · subst hk
    obtain ⟨t, ht, hst⟩ := advance_of_changes h hs
    exact isLoggedIn_iff.mpr ⟨t, ht, (hst.keeps hsin).1⟩
  · rw [← session?_of_changes_ne h hk] at hs
    exact isLoggedIn_iff.mpr ⟨s, hs, hsin⟩

/-- Every session is admissible. -/
def SessionsAdmissible (d : Directory) : Prop :=
  ∀ id s, d.session? id = some s → s.Admissible

namespace SessionsAdmissible

theorem empty : Directory.empty.SessionsAdmissible := by
  intro id s hs
  rw [session?_empty] at hs
  cases hs

theorem openSession (hd : d.SessionsAdmissible) : (d.openSession id).SessionsAdmissible := by
  intro k t ht
  rw [session?_openSession] at ht
  by_cases hk : id = k
  · rw [if_pos hk] at ht
    cases ht
    exact Session.Admissible.fresh
  · rw [if_neg hk] at ht
    exact hd k t ht

theorem change (hd : d.SessionsAdmissible) (h : Change id d d') : d'.SessionsAdmissible := by
  intro k t ht
  by_cases hk : id = k
  · subst hk
    have hsome : (d.session? id).isSome = true := by
      rw [← h.isSome_session?, ht, Option.isSome_some]
    obtain ⟨s, hs⟩ := Option.isSome_iff_exists.mp hsome
    obtain ⟨u, hu, hstep | hnick | rfl⟩ := h.session?_self hs
    · rw [ht] at hu
      cases hu
      exact (hd id s hs).move (Or.inl hstep)
    · rw [ht] at hu
      cases hu
      exact (hd id s hs).move (Or.inr hnick)
    · rw [ht] at hu
      cases hu
      exact hd id t hs
  · rw [h.session?_ne hk] at ht
    exact hd k t ht

theorem closeSession (hd : d.SessionsAdmissible) : (d.closeSession id).SessionsAdmissible := by
  intro k t ht
  rw [session?_closeSession] at ht
  by_cases hk : id = k
  · rw [if_pos hk] at ht
    cases ht
  · rw [if_neg hk] at ht
    exact hd k t ht

/-- Whoever is logged in is addressed by the nickname in its session. -/
theorem nickname?_eq_address (hd : d.SessionsAdmissible) (hin : d.isLoggedIn id = true) :
    d.nickname? id = some (d.address id) := by
  obtain ⟨s, hs, hsin⟩ := isLoggedIn_iff.mp hin
  obtain ⟨n, hn⟩ := Option.isSome_iff_exists.mp ((hd id s hs).of_loggedIn hsin).1
  have hnick : d.nickname? id = some n := (nickname?_of_session? hs).trans hn
  rw [address_of_nickname? hnick, hnick]

end SessionsAdmissible

end Directory

namespace Relay

variable {site : Site} {d : Directory} {event : Event} {past future : List Event}
  {id k : Handle} {s t : Session}

/-- A session after a line is an advance of the session before it. -/
theorem advance_of_receive {text : String} (ht : (receive site d id text).1.session? k = some t) :
    ∃ s, d.session? k = some s ∧ Session.Advance s t := by
  have hchanges := receive_changes site d id text
  by_cases hk : id = k
  · subst hk
    cases hs : d.session? id with
    | none =>
      rw [receive, hs] at ht
      rw [hs] at ht
      cases ht
    | some s =>
      obtain ⟨u, hu, hsu⟩ := advance_of_changes hchanges hs
      rw [hu] at ht
      cases ht
      exact ⟨s, rfl, hsu⟩
  · rw [session?_of_changes_ne hchanges hk] at ht
    exact ⟨t, ht, ReflTransGen.refl⟩

/-- A session after an event is a fresh one of a connection that came, or an
advance of the session before. -/
theorem advance_of_step (ht : (step site d event).1.session? k = some t) :
    (event = .connect k ∧ t = .fresh) ∨ ∃ s, d.session? k = some s ∧ Session.Advance s t := by
  cases event with
  | connect id =>
    rw [step, connect_directory, session?_openSession] at ht
    by_cases hk : id = k
    · rw [if_pos hk] at ht
      cases ht
      exact Or.inl ⟨congrArg Event.connect hk, rfl⟩
    · rw [if_neg hk] at ht
      exact Or.inr ⟨t, ht, ReflTransGen.refl⟩
  | line id text => exact Or.inr (advance_of_receive ht)
  | drop id =>
    rw [step, drop_directory, session?_closeSession] at ht
    by_cases hk : id = k
    · rw [if_pos hk] at ht
      cases ht
    · rw [if_neg hk] at ht
      exact Or.inr ⟨t, ht, ReflTransGen.refl⟩

/-- What holds of a fresh session, and survives each event that leaves the session open, holds
of every session of a run, in view of what has happened since its connection came. -/
theorem session_induction (site : Site) {P : List Event → Session → Prop} (hopen : P [] .fresh)
    (hstep : ∀ d since event s t, event ≠ .connect k → d.session? k = some s →
      (step site d event).1.session? k = some t → P since s → P (since ++ [event]) t)
    (fresh : FreshHandles past) (hs : (run site .empty past).session? k = some s) :
    ∃ before since, past = before ++ .connect k :: since ∧ P since s := by
  refine run_induction site [] past
    (P := fun past d => ∀ s, d.session? k = some s →
      ∃ before since, past = before ++ .connect k :: since ∧ P since s) ?_ fresh ?_ s hs
  · intro past event _ ih t ht
    by_cases hopened : event = .connect k
    · rw [hopened, step, connect_directory, session?_openSession, if_pos rfl] at ht
      cases ht
      exact ⟨past, [], by rw [hopened], hopen⟩
    · rcases advance_of_step ht with ⟨he, -⟩ | ⟨s, hs, -⟩
      · exact absurd he hopened
      · obtain ⟨before, since, rfl, hsince⟩ := ih s hs
        have hevents : before ++ .connect k :: since ++ [event] =
            before ++ .connect k :: (since ++ [event]) := by
          rw [List.append_assoc, List.cons_append]
        exact ⟨before, since ++ [event], hevents, hstep _ since event s t hopened hs ht hsince⟩
  · intro t ht
    rw [run, List.foldl_nil, session?_empty] at ht
    cases ht

/-- Every session is admissible throughout a run. -/
theorem run_sessionsAdmissible (site : Site) (fresh : FreshHandles past) :
    (run site .empty past).SessionsAdmissible :=
  run_keeps .empty (fun _ hd => hd.openSession) (fun h hd => hd.change h)
    (fun hd => hd.closeSession) fresh

/-- A session of a run has advanced from its state at every earlier point. -/
theorem advance_of_run (fresh : FreshHandles (past ++ future))
    (hs : (run site .empty past).session? k = some s)
    (ht : (run site .empty (past ++ future)).session? k = some t) : Session.Advance s t := by
  have hopened : k ∈ Event.opened past := mem_opened_of_session? fresh.past_of_append hs
  have hall : k ∈ Event.opened (past ++ future) ∧
      ∀ t, (run site .empty (past ++ future)).session? k = some t → Session.Advance s t := by
    refine run_induction site past future (P := fun past d => k ∈ Event.opened past ∧
      ∀ t, d.session? k = some t → Session.Advance s t) ?_ fresh ⟨hopened, ?_⟩
    · rintro past event fresh ⟨hopened, ih⟩
      refine ⟨?_, fun t ht => ?_⟩
      · rw [Event.mem_opened] at hopened ⊢
        exact List.mem_append_left _ hopened
      · rcases advance_of_step ht with ⟨rfl, -⟩ | ⟨u, hu, hut⟩
        · exact absurd hopened fresh.not_mem_opened
        · exact (ih u hu).trans hut
    · intro t ht
      rw [hs] at ht
      cases ht
      exact ReflTransGen.refl
  exact hall.2 t ht

end Relay

end RelayChat
