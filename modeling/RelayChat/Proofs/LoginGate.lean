import RelayChat.Proofs.Greetings

/-!
# The login gate

A session is logged in by the very event that completes it. That no complete
session is left waiting (`Settled`) is an invariant between events only: within a
line a session may be complete before the login that concludes it. With what is
known of greetings and of how sessions develop, this says of the whole life of a
connection that it is greeted once or never.
-/

namespace RelayChat

open Relation Directory

section Gate

variable {site : Site} {d : Directory} {id : Handle} {tail : String} {verb : Verb}
  {outcome : Outcome} {s : Session}

/-- Whoever lacks nothing is logged in. -/
def Directory.Settled (d : Directory) : Prop :=
  ∀ id s, d.session? id = some s → s.isComplete = true → s.loggedIn = true

/-- A login leaves no complete session of its connection waiting. -/
theorem settled_logIn (hs : (Registration.logIn site d id).1.session? id = some s)
    (hc : s.isComplete = true) : s.loggedIn = true := by
  rcases Registration.logIn_cases site d id with ⟨he, hsettled⟩ | ⟨t, ht, -, -, he⟩
  · rw [he] at hs
    exact hsettled s hs hc
  · rw [he, session?_updateSession, if_pos rfl, ht] at hs
    cases hs
    rfl

/-- A command leaves nobody waiting, unless a login is still to come. -/
theorem Dispatch.Effect.settled (h : Dispatch.Effect site d id tail verb outcome)
    (hd : d.Settled) :
    outcome.directory.Settled ∨ outcome.refusal = none ∧ verb.isRegistration = true := by
  cases h with
  | idle => exact Or.inl hd
  | refused => exact Or.inl hd
  | wrongPassword => exact Or.inl hd
  | password => exact Or.inr ⟨rfl, rfl⟩
  | capEnd => exact Or.inr ⟨rfl, rfl⟩
  | capOther => exact Or.inr ⟨rfl, rfl⟩
  | nickname => exact Or.inr ⟨rfl, rfl⟩
  | named => exact Or.inr ⟨rfl, rfl⟩
  | namedUnproven username hostname hs _ hp =>
    left
    intro k s hk hc
    dsimp only at hk
    rw [nameUser, session?_updateSession] at hk
    by_cases he : id = k
    · rw [if_pos he, hs] at hk
      cases hk
      simp [Session.isComplete, hp] at hc
    · rw [if_neg he] at hk
      exact hd k s hk hc
  | joined => exact Or.inl hd
  | created => exact Or.inl hd
  | left => exact Or.inl hd
  | topicShown => exact Or.inl hd
  | topicSet => exact Or.inl hd
  | told => exact Or.inl hd
  | spoken => exact Or.inl hd
  | pong => exact Or.inl hd
  | quit farewell =>
    left
    intro k s hk hc
    dsimp only [Outcome.done] at hk
    rw [session?_updateSession] at hk
    by_cases he : id = k
    · rw [if_pos he] at hk
      obtain ⟨t, ht, rfl⟩ := Option.map_eq_some_iff.mp hk
      exact hd id t ht hc
    · rw [if_neg he] at hk
      exact hd k s hk hc

/-- The conclusion of a command leaves nobody waiting. -/
theorem Dispatch.Effect.settled_conclude (h : Dispatch.Effect site d id tail verb outcome)
    (hd : d.Settled) (hs : d.session? id = some s) :
    (Dispatch.conclude site id verb outcome).1.Settled := by
  have hsettled := h.settled hd
  rcases Dispatch.conclude_cases site id verb outcome with
    ⟨refusal, hr, he⟩ | ⟨-, -, he⟩ | ⟨-, hv, he⟩
  · rw [he]
    exact hsettled.resolve_right fun h => Option.some_ne_none _ (hr.symm.trans h.1)
  · intro k t ht hc
    rw [he] at ht
    by_cases hk : id = k
    · subst hk
      exact settled_logIn ht hc
    · have hchanges : ReflTransGen (Change id) d (Registration.logIn site outcome.directory id).1 :=
        (h.changes hs).trans (Dispatch.logIn_changes site outcome.directory id)
      rw [session?_of_changes_ne hchanges hk] at ht
      exact hd k t ht hc
  · rw [he]
    exact hsettled.resolve_right fun h => Bool.false_ne_true (hv.symm.trans h.2)

/-- An event leaves nobody waiting. -/
theorem Relay.settled_step (site : Site) (event : Event) (hd : d.Settled) :
    (Relay.step site d event).1.Settled := by
  cases event with
  | connect id =>
    intro k t ht hc
    rw [Relay.step, Relay.connect_directory, session?_openSession] at ht
    by_cases hk : id = k
    · rw [if_pos hk] at ht
      cases ht
      cases hc
    · rw [if_neg hk] at ht
      exact hd k t ht hc
  | line id text =>
    rw [Relay.step]
    rcases Relay.receive_effect site d id text with
      he | ⟨s, request, outcome, hs, -, heffect, he⟩
    · rw [he]
      exact hd
    · rw [he]
      exact heffect.settled_conclude hd hs
  | drop id =>
    intro k t ht hc
    rw [Relay.step, Relay.drop_directory, session?_closeSession] at ht
    by_cases hk : id = k
    · rw [if_pos hk] at ht
      cases ht
    · rw [if_neg hk] at ht
      exact hd k t ht hc

end Gate

/-! ## Whole lives -/

namespace Relay

variable {site : Site} {past events : List Event} {event : Event} {id : Handle}

/-- Nobody is left waiting throughout a run. -/
theorem run_settled (site : Site) (fresh : FreshHandles events) :
    (run site .empty events).Settled := by
  refine run_induction site [] events (P := fun _ d => d.Settled) ?_ fresh ?_
  · intro past event _ hd
    exact settled_step site event hd
  · intro id s hs _
    rw [run, List.foldl_nil, session?_empty] at hs
    cases hs

/-- Whether a connection is logged in at some point of a run. -/
def EverLoggedIn (site : Site) (events : List Event) (id : Handle) : Prop :=
  ∃ past, past <+: events ∧ (run site .empty past).isLoggedIn id = true

theorem everLoggedIn_concat :
    EverLoggedIn site (past ++ [event]) id ↔
      EverLoggedIn site past id ∨ (run site .empty (past ++ [event])).isLoggedIn id = true := by
  constructor
  · rintro ⟨earlier, hprefix, hin⟩
    rcases List.prefix_concat_iff.mp hprefix with rfl | hprefix
    · exact Or.inr hin
    · exact Or.inl ⟨earlier, hprefix, hin⟩
  · rintro (⟨earlier, hprefix, hin⟩ | hin)
    · exact ⟨earlier, hprefix.trans (List.prefix_append past [event]), hin⟩
    · exact ⟨past ++ [event], List.prefix_rfl, hin⟩

/-- Nobody is logged in a second time: a connection that was logged in once and is
logged in after an event was so right before it. -/
theorem isLoggedIn_of_everLoggedIn (fresh : FreshHandles (past ++ [event]))
    (hever : EverLoggedIn site past id)
    (hin : (run site .empty (past ++ [event])).isLoggedIn id = true) :
    (run site .empty past).isLoggedIn id = true := by
  obtain ⟨earlier, ⟨between, rfl⟩, hearlier⟩ := hever
  obtain ⟨s, hs, hsin⟩ := isLoggedIn_iff.mp hearlier
  obtain ⟨u, hu, -⟩ := isLoggedIn_iff.mp hin
  rw [run_concat] at hu
  rcases (isSome_session?_step site _ event id).mp (Option.isSome_of_eq_some hu) with
    rfl | ⟨-, hsome⟩
  · -- the handle would be opened anew
    have hopened : id ∈ Event.opened earlier :=
      mem_opened_of_session? fresh.past_of_append.past_of_append hs
    refine absurd ?_ fresh.not_mem_opened
    rw [Event.mem_opened] at hopened ⊢
    exact List.mem_append_left _ hopened
  · obtain ⟨t, ht⟩ := Option.isSome_iff_exists.mp hsome
    have hadvance := advance_of_run fresh.past_of_append hs ht
    exact isLoggedIn_iff.mpr ⟨t, ht, (hadvance.keeps hsin).1⟩

/-- Over its life a connection is greeted once if it is ever logged in, and never
otherwise. -/
theorem greetings_calls (site : Site) (fresh : FreshHandles events) (id : Handle) :
    (EverLoggedIn site events id → greetings id (calls site .empty events) = [1, 2, 3, 4]) ∧
      (¬EverLoggedIn site events id → greetings id (calls site .empty events) = []) := by
  refine run_induction site [] events
    (P := fun past _ =>
      (EverLoggedIn site past id → greetings id (calls site .empty past) = [1, 2, 3, 4]) ∧
        (¬EverLoggedIn site past id → greetings id (calls site .empty past) = [])) ?_ fresh ?_
  · rintro past event fresh ⟨hgreeted, hunheard⟩
    have hcalls : greetings id (calls site .empty (past ++ [event])) =
        greetings id (calls site .empty past) ++
          due (run site .empty past) (run site .empty (past ++ [event])) id := by
      rw [calls_concat, greetings_append, run_concat, greets_step]
    rw [hcalls, everLoggedIn_concat]
    by_cases hever : EverLoggedIn site past id
    · have hdue := due_eq_nil (isLoggedIn_of_everLoggedIn fresh hever)
      rw [hdue, List.append_nil]
      exact ⟨fun _ => hgreeted hever, fun h => absurd (Or.inl hever) h⟩
    · have hout : (run site .empty past).isLoggedIn id = false := by
        rw [← Bool.not_eq_true]
        exact fun hin => hever ⟨past, List.prefix_rfl, hin⟩
      rw [hunheard hever, List.nil_append]
      constructor
      · intro h
        exact if_pos ⟨hout, h.resolve_left hever⟩
      · intro h
        exact if_neg fun hdue => h (Or.inr hdue.2)
  · constructor
    · rintro ⟨past, hprefix, hin⟩
      rw [List.prefix_nil.mp hprefix] at hin
      cases hin
    · intro _
      rfl

/-- The login gate. In every state that a run reaches, a session is logged in as
soon as it lacks nothing and never before; while a session lasts its login lasts
and its names stay as they were; an event greets exactly those whom it logs in;
and over its whole life a connection is greeted once if it is ever logged in. -/
theorem login_gate (site : Site) {events : List Event} (fresh : FreshHandles events) :
    let d := run site .empty events
    (∀ id s, d.session? id = some s → (s.isComplete = true → s.loggedIn = true) ∧
      (s.loggedIn = true → s.nickname.isSome = true ∧ s.username.isSome = true ∧
        s.hostname.isSome = true ∧ s.passwordGiven = true)) ∧
      (∀ later id s t, FreshHandles (events ++ later) → d.session? id = some s →
        (run site .empty (events ++ later)).session? id = some t → s.loggedIn = true →
          t.loggedIn = true ∧ t.username = s.username ∧ t.hostname = s.hostname) ∧
      (∀ event id, greetings id (step site d event).2 =
        if d.isLoggedIn id = false ∧ (step site d event).1.isLoggedIn id = true
        then [1, 2, 3, 4] else []) ∧
      ∀ id, (EverLoggedIn site events id → greetings id (calls site .empty events) = [1, 2, 3, 4]) ∧
        (¬EverLoggedIn site events id → greetings id (calls site .empty events) = []) := by
  intro d
  refine ⟨?_, ?_, ?_, greetings_calls site fresh⟩
  · intro id s hs
    have hadmissible := run_sessionsAdmissible site fresh id s hs
    refine ⟨run_settled site fresh id s hs, fun hin => ?_⟩
    obtain ⟨hnickname, husername, hpassword⟩ := hadmissible.of_loggedIn hin
    exact ⟨hnickname, husername, hadmissible.hostname_of_username husername, hpassword⟩
  · intro later id s t fresh hs ht
    exact (advance_of_run fresh hs ht).keeps
  · intro event
    exact greets_step site d event

/-- A handshake in which everything happens that might delay the login or repeat
the greeting. -/
def handshake : List Event :=
  [.connect 1, .line 1 "CAP LS", .line 1 "PASS secret", .line 1 "USER ann host",
    .line 1 "NICK ann", .line 1 "CAP END", .line 1 "CAP LS", .line 1 "NICK eve",
    .line 1 "PASS secret", .line 1 "USER eve there"]

/-- After the handshake the visitor has been greeted once. -/
theorem login_gate_handshake :
    FreshHandles handshake ∧ EverLoggedIn .sample handshake 1 ∧
      greetings 1 (calls .sample .empty handshake) = [1, 2, 3, 4] := by
  have fresh : FreshHandles handshake := by decide
  have hin : EverLoggedIn .sample handshake 1 :=
    ⟨handshake, List.prefix_rfl, by decide +kernel⟩
  exact ⟨fresh, hin, ((login_gate .sample fresh).2.2.2 1).1 hin⟩

end Relay

end RelayChat
