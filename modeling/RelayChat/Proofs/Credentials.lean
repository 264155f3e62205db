import RelayChat.Proofs.CommandTokens
import RelayChat.Proofs.SessionProgress

/-!
# What a login rests on

A session can be logged in only with a password, a nickname and a user name, and
it has each of them from a line of its own connection. `Credential` names the three.
A line gives a session at most the credential that its command is for, and a
password only if it is the right one (`Effect.heldBy_conclude`); lines of others give
it none. Along a run every credential of a session is traced back to a line that came
after the connection did (`supplied_of_run`).
-/

namespace RelayChat

open Relation Directory

/-- What a session must have been given before it can be logged in. -/
inductive Credential where
  /-- The password of the relay. -/
  | password
  /-- A nickname. -/
  | nickname
  /-- A user name, with the host name that comes with it. -/
  | username

namespace Credential

/-- Whether a session has it. -/
def heldBy : Credential → Session → Bool
  | password, s => s.passwordGiven
  | nickname, s => s.nickname.isSome
  | username, s => s.username.isSome

/-- The command that gives it. -/
def verb : Credential → Verb
  | password => .pass
  | nickname => .nick
  | username => .user

/-- Which tails of that command give it. The password must be the relay's, letter
for letter, and a nickname must be valid. -/
def Accepts (site : Site) : Credential → String → Prop
  | password, tail => Words.firstParameter tail = site.password
  | nickname, tail => Names.isNickname (Words.firstParameter tail) = true
  | username, _ => True

/-- One of the events is a line of the connection that gives it. -/
def SuppliedIn (site : Site) (id : Handle) (events : List Event) (c : Credential) : Prop :=
  ∃ text request, .line id text ∈ events ∧ Request.parse? text = some request ∧
    Verb.sameLetters c.verb.spelling request.token = true ∧ c.Accepts site request.tail

variable {site : Site} {d : Directory} {id : Handle} {c : Credential} {s t : Session}

theorem SuppliedIn.mono {events more : List Event} (h : c.SuppliedIn site id events)
    (hsub : events ⊆ more) : c.SuppliedIn site id more := by
  obtain ⟨text, request, hmem, hrest⟩ := h
  exact ⟨text, request, hsub hmem, hrest⟩

theorem verb_ne_unknown (c : Credential) : c.verb ≠ .unknown := by
  cases c <;> decide

/-- A login gives nothing. -/
theorem heldBy_of_logIn (ht : (Registration.logIn site d id).1.session? id = some t)
    (hc : c.heldBy t = true) : ∃ s, d.session? id = some s ∧ c.heldBy s = true := by
  rcases Registration.logIn_cases site d id with ⟨he, -⟩ | ⟨s, hs, -, -, he⟩
  · rw [he] at ht
    exact ⟨t, ht, hc⟩
  · rw [he, session?_updateSession, if_pos rfl, hs, Option.map_some] at ht
    cases ht
    refine ⟨s, hs, ?_⟩
    cases c <;> exact hc

end Credential

section Lines

variable {site : Site} {d : Directory} {id : Handle} {tail : String} {verb : Verb}
  {outcome : Outcome} {c : Credential} {s t : Session}

/-- After a note in the sender's own session. -/
theorem heldBy_of_updateSession {f : Session → Session} (hs : d.session? id = some s)
    (ht : (d.updateSession id f).session? id = some t) (hc : c.heldBy t = true) :
    c.heldBy (f s) = true := by
  rw [session?_updateSession, if_pos rfl, hs, Option.map_some] at ht
  cases ht
  exact hc

/-- A command gives its sender no credential but its own, and that one only if its
tail is acceptable. -/
theorem Dispatch.Effect.heldBy (h : Dispatch.Effect site d id tail verb outcome)
    (hs : d.session? id = some s) (ht : outcome.directory.session? id = some t)
    (hc : c.heldBy t = true) : c.heldBy s = true ∨ verb = c.verb ∧ c.Accepts site tail := by
  have hsame : d.session? id = some t → c.heldBy s = true := by
    intro h
    rw [hs] at h
    cases h
    exact hc
  cases h with
  | idle => exact Or.inl (hsame ht)
  | refused => exact Or.inl (hsame ht)
  | wrongPassword => exact Or.inl (hsame ht)
  | password _ hp =>
    have hnoted := heldBy_of_updateSession hs ht hc
    cases c with
    | password => exact Or.inr ⟨rfl, hp⟩
    | nickname => exact Or.inl hnoted
    | username => exact Or.inl hnoted
  | capEnd =>
    have hnoted := heldBy_of_updateSession hs ht hc
    cases c <;> exact Or.inl hnoted
  | capOther =>
    have hnoted := heldBy_of_updateSession hs ht hc
    cases c <;> exact Or.inl hnoted
  | nickname valid =>
    dsimp only [Outcome.done] at ht
    rw [session?_takeNickname, if_pos rfl, hs, Option.map_some] at ht
    cases ht
    cases c with
    | password => exact Or.inl hc
    | nickname => exact Or.inr ⟨rfl, valid⟩
    | username => exact Or.inl hc
  | named username hostname =>
    obtain ⟨u, hu, hcu⟩ := Credential.heldBy_of_logIn ht hc
    have hnoted := heldBy_of_updateSession hs hu hcu
    cases c with
    | password => exact Or.inl hnoted
    | nickname => exact Or.inl hnoted
    | username => exact Or.inr ⟨rfl, trivial⟩
  | namedUnproven username hostname =>
    have hnoted := heldBy_of_updateSession hs ht hc
    cases c with
    | password => exact Or.inl hnoted
    | nickname => exact Or.inl hnoted
    | username => exact Or.inr ⟨rfl, trivial⟩
  | joined => exact Or.inl (hsame (session?_updateChannel.symm.trans ht))
  | created => exact Or.inl (hsame (session?_putChannel.symm.trans ht))
  | left => exact Or.inl (hsame (session?_leaveChannel.symm.trans ht))
  | topicShown => exact Or.inl (hsame ht)
  | topicSet => exact Or.inl (hsame (session?_updateChannel.symm.trans ht))
  | told => exact Or.inl (hsame ht)
  | spoken => exact Or.inl (hsame ht)
  | pong => exact Or.inl (hsame ht)
  | quit =>
    have hnoted := heldBy_of_updateSession hs ht hc
    cases c <;> exact Or.inl hnoted

/-- Nor does the conclusion of a command. -/
theorem Dispatch.Effect.heldBy_conclude (h : Dispatch.Effect site d id tail verb outcome)
    (hs : d.session? id = some s)
    (ht : (Dispatch.conclude site id verb outcome).1.session? id = some t)
    (hc : c.heldBy t = true) : c.heldBy s = true ∨ verb = c.verb ∧ c.Accepts site tail := by
  rcases Dispatch.conclude_cases site id verb outcome with ⟨_, -, he⟩ | ⟨-, -, he⟩ | ⟨-, -, he⟩
  · rw [he] at ht
    exact h.heldBy hs ht hc
  · rw [he] at ht
    obtain ⟨u, hu, hcu⟩ := Credential.heldBy_of_logIn ht hc
    exact h.heldBy hs hu hcu
  · rw [he] at ht
    exact h.heldBy hs ht hc

end Lines

namespace Relay

variable {site : Site} {d : Directory} {events past : List Event} {event : Event}
  {id k : Handle} {c : Credential} {s t : Session}

/-- A credential that a session has after a line it had before, or the line is its
own and gives it. -/
theorem heldBy_of_receive {text : String}
    (ht : (receive site d id text).1.session? k = some t) :
    ∃ s, d.session? k = some s ∧ ∀ c : Credential, c.heldBy t = true →
      c.heldBy s = true ∨ c.SuppliedIn site k [.line id text] := by
  rcases receive_effect site d id text with he | ⟨s, request, outcome, hs, hparse, heffect, he⟩
  · rw [he] at ht
    exact ⟨t, ht, fun _ hc => Or.inl hc⟩
  · by_cases hk : id = k
    · subst hk
      refine ⟨s, hs, fun c hc => ?_⟩
      rw [he] at ht
      rcases heffect.heldBy_conclude hs ht hc with hheld | ⟨hverb, haccepts⟩
      · exact Or.inl hheld
      · have hsame := (Verb.ofToken_eq_iff c.verb_ne_unknown).mp hverb
        exact Or.inr ⟨text, request, List.mem_singleton_self _, hparse, hsame, haccepts⟩
    · rw [session?_of_changes_ne (receive_changes site d id text) hk] at ht
      exact ⟨t, ht, fun _ hc => Or.inl hc⟩

/-- Whatever a session of a run has been given came in lines of its connection, after
the connection was opened. -/
theorem supplied_of_run (site : Site) (fresh : FreshHandles events) (id : Handle) (s : Session)
    (hs : (run site .empty events).session? id = some s) :
    ∃ before after, events = before ++ .connect id :: after ∧
      ∀ c : Credential, c.heldBy s = true → c.SuppliedIn site id after := by
  refine session_induction site
    (P := fun since s => ∀ c : Credential, c.heldBy s = true → c.SuppliedIn site id since)
    ?_ ?_ fresh hs
  · intro c hc
    cases c <;> cases hc
  · intro d since event s t hopened hs ht ih c hc
    -- a session keeps the lines that it had
    have hlater : c.heldBy s = true ∨ c.SuppliedIn site id [event] →
        c.SuppliedIn site id (since ++ [event]) := by
      rintro (hheld | hnow)
      · exact (ih c hheld).mono (List.subset_append_left since [event])
      · exact hnow.mono (List.subset_append_right since [event])
    cases event with
    | connect k =>
      have hk : ¬k = id := fun he => hopened (congrArg Event.connect he)
      rw [step, connect_directory, session?_openSession, if_neg hk, hs] at ht
      cases ht
      exact hlater (Or.inl hc)
    | line k text =>
      obtain ⟨u, hu, hgiven⟩ := heldBy_of_receive ht
      cases hs.symm.trans hu
      exact hlater (hgiven c hc)
    | drop k =>
      rw [step, drop_directory, session?_closeSession] at ht
      by_cases hk : k = id
      · rw [if_pos hk] at ht
        cases ht
      · rw [if_neg hk, hs] at ht
        cases ht
        exact hlater (Or.inl hc)

/-- Nobody is logged in without the password. Whoever is logged in at the end of a
run has sent, after the connection was opened, a line whose command is PASS in letters
of either case and whose first parameter is the password exactly, a NICK line with a
valid nickname, and a USER line. -/
theorem authenticated_of_loggedIn (site : Site) {events : List Event} (fresh : FreshHandles events)
    {id : Handle} (hin : (run site .empty events).isLoggedIn id = true) :
    ∃ before after, events = before ++ .connect id :: after ∧
      (∃ text request, .line id text ∈ after ∧ Request.parse? text = some request ∧
        Verb.sameLetters "PASS" request.token = true ∧
        Words.firstParameter request.tail = site.password) ∧
      (∃ text request, .line id text ∈ after ∧ Request.parse? text = some request ∧
        Verb.sameLetters "NICK" request.token = true ∧
        Names.isNickname (Words.firstParameter request.tail) = true) ∧
      ∃ text request, .line id text ∈ after ∧ Request.parse? text = some request ∧
        Verb.sameLetters "USER" request.token = true := by
  obtain ⟨s, hs, hsin⟩ := isLoggedIn_iff.mp hin
  obtain ⟨hnickname, husername, hpassword⟩ :=
    (run_sessionsAdmissible site fresh id s hs).of_loggedIn hsin
  obtain ⟨before, after, he, hsupplied⟩ := supplied_of_run site fresh id s hs
  have hpass : Credential.password.SuppliedIn site id after := hsupplied .password hpassword
  have hnick : Credential.nickname.SuppliedIn site id after := hsupplied .nickname hnickname
  obtain ⟨text, request, hmem, hparse, htoken, -⟩ := hsupplied .username husername
  exact ⟨before, after, he, hpass, hnick, text, request, hmem, hparse, htoken⟩

/-- Two visitors at once, one of whom gives a wrong password and the other the right
one in small letters. -/
def crowd : List Event :=
  [.connect 1, .connect 2, .line 2 "PASS wrong", .line 1 "USER ann host", .line 2 "NICK bob",
    .line 1 "pass secret", .line 2 "USER bob host", .line 1 ":ann NICK :ann",
    .line 1 "USER ann host"]

/-- The visitor who is let in has sent the password. -/
theorem authenticated_of_loggedIn_crowd :
    FreshHandles crowd ∧ (run .sample .empty crowd).isLoggedIn 1 = true ∧
      ∃ text request, .line 1 text ∈ crowd ∧ Request.parse? text = some request ∧
        Words.firstParameter request.tail = "secret" := by
  have fresh : FreshHandles crowd := by decide
  have hin : (run .sample .empty crowd).isLoggedIn 1 = true := by decide +kernel
  obtain ⟨before, after, he, ⟨text, request, hmem, hparse, -, hpassword⟩, -⟩ :=
    authenticated_of_loggedIn .sample fresh hin
  refine ⟨fresh, hin, text, request, ?_, hparse, hpassword⟩
  rw [he]
  exact List.mem_append_right before (List.mem_cons_of_mem _ hmem)

end Relay

end RelayChat
