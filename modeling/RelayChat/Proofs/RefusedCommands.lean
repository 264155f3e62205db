import RelayChat.Proofs.FreshRuns

/-!
# What a refused command leaves behind

A command is refused before it changes anything: that may be in the middle of it, when
the channel or the nickname has been looked up, but never after a change. One command is
refused late. The user name and the host name are noted before the password is missed, and
stay noted. Whatever the reason, nobody but the sender is told, and the sender loses its
connection over a password only.

All this is true of every directory, and not only of those that a run reaches.
-/

namespace RelayChat

open Directory

/-- Nothing has changed but the user name and the host name in the session of connection
`id`. -/
structure Directory.OnlyNames (id : Handle) (username hostname : String) (d d' : Directory) :
    Prop where
  /-- Everybody holds the nickname that they held. -/
  holders : d'.holders = d.holders
  /-- The channels are the same. -/
  channels : d'.channels = d.channels
  /-- All others have the sessions that they had. -/
  others : ∀ k, k ≠ id → d'.session? k = d.session? k
  /-- The connection has the session that it had, with the two names in it. -/
  own : ∃ s, d.session? id = some s ∧
    d'.session? id = some { s with username := some username, hostname := some hostname }

section Refused

variable {site : Site} {d : Directory} {id : Handle} {tail username hostname : String}
  {verb : Verb} {outcome : Outcome} {refusal : Refusal} {s : Session}

namespace Directory

theorem onlyNames_nameUser (hs : d.session? id = some s) :
    OnlyNames id username hostname d (d.nameUser id username hostname) where
  holders := rfl
  channels := rfl
  others k hk := session?_updateSession.trans (if_neg hk.symm)
  own := ⟨s, hs, by rw [nameUser, session?_updateSession, if_pos rfl, hs, Option.map_some]⟩

/-- Nobody is addressed by its user name. -/
theorem address_nameUser : (d.nameUser id username hostname).address id = d.address id := by
  rw [address, nameUser, session?_updateSession, if_pos rfl, address]
  cases d.session? id <;> rfl

end Directory

/-- The password is missed only when both names were given. -/
theorem Registration.names_of_passwordMismatch
    (h : (Registration.user site d id tail).refusal = some .passwordMismatch) :
    (Words.split tail).1 ≠ "" ∧ (Words.split (Words.split tail).2).1 ≠ "" := by
  unfold Registration.user at h
  split at h
  · cases h
  · dsimp only at h
    split at h
    · cases h
    · rename_i hwords
      simpa using hwords

namespace Dispatch

/-- A refused command has made no call and has changed nothing, except that the two names
are noted before the password is missed. -/
theorem Effect.of_refused (h : Effect site d id tail verb outcome)
    (hr : outcome.refusal = some refusal) : outcome.calls = [] ∧
      (outcome.directory = d ∧ ¬(verb = .user ∧ refusal = .passwordMismatch) ∨
        verb = .user ∧ refusal = .passwordMismatch ∧ ∃ s, d.session? id = some s ∧
          outcome.directory =
            d.nameUser id (Words.split tail).1 (Words.split (Words.split tail).2).1) := by
  cases h with
  | refused _ _ hkeeps =>
    cases hr
    refine ⟨rfl, Or.inl ⟨rfl, ?_⟩⟩
    rintro ⟨-, rfl⟩
    cases hkeeps
  | wrongPassword =>
    refine ⟨rfl, Or.inl ⟨rfl, ?_⟩⟩
    rintro ⟨hverb, -⟩
    cases hverb
  | namedUnproven username hostname hs _ _ huser hhost =>
    cases hr
    subst huser hhost
    exact ⟨rfl, Or.inr ⟨rfl, rfl, _, hs, rfl⟩⟩
  | _ => cases hr

/-- The sender of a refused command is addressed as before. -/
theorem Effect.address_of_refused (h : Effect site d id tail verb outcome)
    (hr : outcome.refusal = some refusal) : outcome.directory.address id = d.address id := by
  rcases (h.of_refused hr).2 with ⟨he, -⟩ | ⟨-, -, _, -, he⟩
  · rw [he]
  · rw [he, address_nameUser]

/-- The conclusion of a refused command. -/
theorem conclude_of_refused (hr : outcome.refusal = some refusal) :
    conclude site id verb outcome = (outcome.directory,
      outcome.calls ++ rejection site outcome.directory id verb refusal) := by
  rcases conclude_cases site id verb outcome with ⟨_, hr', he⟩ | ⟨hr', -⟩ | ⟨hr', -⟩
  · cases hr.symm.trans hr'
    exact he
  · cases hr.symm.trans hr'
  · cases hr.symm.trans hr'

/-- A line whose command is refused is the conclusion of that. -/
theorem line_of_refused {text : String} {request : Request}
    (hparse : Request.parse? text = some request)
    (hr : (attempt site d id request.tail request.verb).refusal = some refusal) :
    line site d id text =
      conclude site id request.verb (attempt site d id request.tail request.verb) := by
  refine line_of_request site d id hparse fun hunknown => ?_
  rw [hunknown] at hr
  cases hr

end Dispatch

end Refused

namespace Dispatch

/-- A command that is refused changes nothing, except that a user name and a host name are noted
in the sender's session if only the password is missing. All that is sent are the replies to
the sender, which is closed after them if the reason was the password. -/
theorem refused_changes_nothing (site : Site) (d : Directory) (id : Handle) {text : String}
    {request : Request} {refusal : Refusal} (hparse : Request.parse? text = some request)
    (hr : (attempt site d id request.tail request.verb).refusal = some refusal) :
    let after := line site d id text
    let username := (Words.split request.tail).1
    let hostname := (Words.split (Words.split request.tail).2).1
    (after.1 = d ∧ ¬(request.verb = .user ∧ refusal = .passwordMismatch) ∨
      request.verb = .user ∧ refusal = .passwordMismatch ∧ username ≠ "" ∧ hostname ≠ "" ∧
        OnlyNames id username hostname d after.1) ∧
      after.2 =
        (refusal.replies site.name (d.address id) request.verb.spelling).map (.send id) ++
          if refusal = .passwordMismatch then [.disconnect id] else [] := by
  intro after username hostname
  have heffect : Effect site d id request.tail request.verb _ :=
    attempt_effect request.verb
  obtain ⟨hcalls, hcases⟩ := heffect.of_refused hr
  have hafter : after = _ :=
    (line_of_refused hparse hr).trans (conclude_of_refused hr)
  rw [hafter, hcalls, List.nil_append, rejection, heffect.address_of_refused hr]
  refine ⟨?_, by simp only [Refusal.disconnects_iff]⟩
  rcases hcases with hsame | ⟨hverb, hmismatch, s, hs, hnamed⟩
  · exact Or.inl hsame
  · have hnames : (Registration.user site d id request.tail).refusal = some .passwordMismatch := by
      rw [hverb, hmismatch] at hr
      exact hr
    obtain ⟨huser, hhost⟩ := Registration.names_of_passwordMismatch hnames
    refine Or.inr ⟨hverb, hmismatch, huser, hhost, ?_⟩
    dsimp only
    rw [hnamed]
    exact onlyNames_nameUser hs

/-- Somebody who has a nickname and has not given the password. -/
def doorbell : Directory :=
  Relay.run .sample .empty [.connect 1, .line 1 "NICK ann"]

/-- Channels are not for her yet. When she says who she is, she is turned away over the
password, and what she said is noted. -/
theorem refused_changes_nothing_doorbell :
    line .sample doorbell 1 "JOIN #lean" =
        (doorbell, [Site.sample.reply 1 (Reply.notRegistered "ann")]) ∧
      let after := line .sample doorbell 1 "USER ann host"
      OnlyNames 1 "ann" "host" doorbell after.1 ∧
        after.2 = [Site.sample.reply 1 (Reply.passwordMismatch "ann"),
          Site.sample.reply 1 (Reply.notRegistered "ann"),
          .send 1 (Refusal.closingLink "Access denied"), .disconnect 1] := by
  have haddress : doorbell.address 1 = "ann" := by decide +kernel
  have hjoin : Request.parse? "JOIN #lean" = some ⟨"JOIN", "#lean"⟩ := by decide +kernel
  have huser : Request.parse? "USER ann host" = some ⟨"USER", "ann host"⟩ := by decide +kernel
  have hgate : (attempt .sample doorbell 1 "#lean" .join).refusal =
      some .notRegistered := by decide +kernel
  have hmissed : (attempt .sample doorbell 1 "ann host" .user).refusal =
      some .passwordMismatch := by decide +kernel
  obtain ⟨hsame, hcalls⟩ := refused_changes_nothing .sample doorbell 1 hjoin hgate
  obtain ⟨hnames, hcalls'⟩ := refused_changes_nothing .sample doorbell 1 huser hmissed
  refine ⟨Prod.ext ?_ ?_, ?_, ?_⟩
  · rcases hsame with ⟨he, -⟩ | ⟨-, hmismatch, -⟩
    · exact he
    · cases hmismatch
  · rw [hcalls, haddress]
    rfl
  · rcases hnames with ⟨-, hnot⟩ | ⟨-, -, -, -, hnames⟩
    · exact absurd ⟨by decide +kernel, rfl⟩ hnot
    · have hwords : Words.split "ann host" = ("ann", "host") := by decide +kernel
      have hword : Words.split "host" = ("host", "") := by decide +kernel
      simpa only [hwords, hword] using hnames
  · rw [hcalls', haddress]
    rfl

end Dispatch

end RelayChat
