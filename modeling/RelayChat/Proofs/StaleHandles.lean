import RelayChat.Proofs.Calls
import RelayChat.Proofs.FreshRuns

/-!
# Handles that lead nowhere

A line may come in under a handle that has no session any more. The relay does not hear
it. The commands would do no harm either: each one that writes looks for the session
first, so that there is nothing to write to (`Effect.of_stale`), and what they answer goes
back to where the line came from. A nickname that is asked for under such a handle stays
free.

All this is true of every directory, and not only of those that a run reaches.
-/

namespace RelayChat

/-- All of these calls are for one connection. -/
def AllFor (id : Handle) (calls : List (Outgoing Message)) : Prop :=
  Outgoing.All (Outgoing.IsFor id) calls

open Directory

section Stale

variable {site : Site} {d : Directory} {id : Handle} {tail : String} {verb : Verb}
  {outcome : Outcome}

namespace Directory

/-- There is no session to be changed. -/
theorem updateSession_of_stale (hs : d.session? id = none) (f : Session → Session) :
    d.updateSession id f = d := by
  refine ext_lookups (fun k => ?_) (fun _ => rfl) fun _ => rfl
  rw [session?_updateSession]
  split
  · rename_i hk
    rw [← hk, hs, Option.map_none]
  · rfl

/-- There is no session to be given a nickname. -/
theorem takeNickname_of_stale (hs : d.session? id = none) (nickname : String) :
    d.takeNickname id nickname = d := by
  rw [takeNickname, hs]

end Directory

namespace Dispatch

/-- A command changes nothing for a connection without a session, and answers it alone. -/
theorem Effect.of_stale (h : Effect site d id tail verb outcome) (hs : d.session? id = none) :
    outcome.directory = d ∧ AllFor id outcome.calls := by
  have hout : ¬d.isLoggedIn id = true := by
    rw [isLoggedIn, hs, Option.any_none]
    exact Bool.false_ne_true
  cases h with
  | idle => exact ⟨rfl, .nil⟩
  | refused => exact ⟨rfl, .nil⟩
  | wrongPassword => exact ⟨rfl, .nil⟩
  | password => exact ⟨updateSession_of_stale hs _, .nil⟩
  | capEnd => exact ⟨updateSession_of_stale hs _, .nil⟩
  | capOther => exact ⟨updateSession_of_stale hs _, .single (.send _)⟩
  | nickname =>
    refine ⟨takeNickname_of_stale hs _, ?_⟩
    rw [Outcome.done, if_neg hout]
    exact .nil
  | named _ _ hs' => cases hs.symm.trans hs'
  | namedUnproven _ _ hs' => cases hs.symm.trans hs'
  | joined hin => exact absurd hin hout
  | created hin => exact absurd hin hout
  | left _ hin => exact absurd hin hout
  | topicShown hin => exact absurd hin hout
  | topicSet hin => exact absurd hin hout
  | told hin => exact absurd hin hout
  | spoken hin => exact absurd hin hout
  | pong => exact ⟨rfl, .single (.send _)⟩
  | quit => exact ⟨updateSession_of_stale hs _, .cons (.send _) (.single .disconnect)⟩

/-- Whoever is rejected is told so, and nobody else is. -/
theorem allFor_rejection (refusal : Refusal) :
    AllFor id (rejection site d id verb refusal) := by
  refine .append (.map fun message _ => .send message) ?_
  split
  · exact .single .disconnect
  · exact .nil

/-- What follows a command changes nothing either, and is for the same connection. -/
theorem Effect.conclude_of_stale (h : Effect site d id tail verb outcome)
    (hs : d.session? id = none) :
    (conclude site id verb outcome).1 = d ∧
      AllFor id (conclude site id verb outcome).2 := by
  obtain ⟨hsame, hcalls⟩ := h.of_stale hs
  rcases conclude_cases site id verb outcome with ⟨refusal, -, he⟩ | ⟨-, -, he⟩ | ⟨-, -, he⟩
  · rw [he]
    exact ⟨hsame, hcalls.append (allFor_rejection refusal)⟩
  · have hlogin : Registration.logIn site d id = (d, []) := by
      refine Registration.logIn_of_not_due fun s hs' => ?_
      cases hs.symm.trans hs'
    rw [he, hsame, hlogin, List.append_nil]
    exact ⟨rfl, hcalls⟩
  · rw [he]
    exact ⟨hsame, hcalls⟩

/-- A handle without a session is inert. Whatever the directory and the line, carrying out
the line changes neither sessions nor nicknames nor channels, and all that it asks for is to
send something to this handle or to close it. The relay itself does not even get that far:
it asks for nothing at all. -/
theorem stale_handle_inert (site : Site) {d : Directory} {id : Handle}
    (hs : d.session? id = none) (text : String) :
    (line site d id text).1 = d ∧ (∀ call ∈ (line site d id text).2, call.IsFor id) ∧
      Relay.step site d (.line id text) = (d, []) := by
  have hstep : Relay.step site d (.line id text) = (d, []) := by
    rw [Relay.step, Relay.receive, hs]
  rcases line_effect site d id text with he | ⟨request, outcome, -, heffect, he⟩
  · rw [he]
    exact ⟨rfl, Outgoing.All.nil, hstep⟩
  · obtain ⟨hsame, hcalls⟩ := heffect.conclude_of_stale hs
    rw [he]
    exact ⟨hsame, hcalls, hstep⟩

/-- A nickname is noted for a handle that has no session, and it stands on a channel. -/
def haunted : Directory where
  sessions := ∅
  holders := (∅ : Std.ExtTreeMap String Handle).insert "ghost" 7
  channels := (∅ : Std.ExtTreeMap String Channel).insert "#lean" (.create "#lean" "ghost")

/-- The handle can neither take a free nickname nor leave the channel. When it quits, it is
told so if anybody asks for that, but not by the relay. -/
theorem stale_handle_inert_haunted :
    haunted.session? 7 = none ∧ (line .sample haunted 7 "NICK spirit").1 = haunted ∧
      (line .sample haunted 7 "PART #lean").1 = haunted ∧
      let quit := line .sample haunted 7 "QUIT :bye"
      quit.1 = haunted ∧
        quit.2 = [.send 7 (Refusal.closingLink "bye"), .disconnect 7] ∧
        (∀ call ∈ quit.2, call.IsFor 7) ∧
        Relay.step .sample haunted (.line 7 "QUIT :bye") = (haunted, []) := by
  have hs : haunted.session? 7 = none := by decide +kernel
  obtain ⟨hnick, -⟩ := stale_handle_inert .sample hs "NICK spirit"
  obtain ⟨hpart, -⟩ := stale_handle_inert .sample hs "PART #lean"
  obtain ⟨hquit, hfor, hstep⟩ := stale_handle_inert .sample hs "QUIT :bye"
  exact ⟨hs, hnick, hpart, hquit, by decide +kernel, hfor, hstep⟩

end Dispatch

end Stale

end RelayChat
