import RelayChat.Proofs.MessageOrigins

/-!
# Connections that are not logged in

Nobody notices a connection before it is logged in. What it says changes its own session
and its own nickname and nothing else (`OnlyOwn`), its going likewise, and all that is ever
sent on that account is sent to itself.

Two of its events do go through all channels, a change of nickname and the end of the
session. They find nothing there: whoever is on a channel is logged in, and nicknames are
not shared (`Sound.not_mem_of_not_loggedIn`). That nobody else is sent anything is read off
the utterances of an event, all of which are the speaker's alone or a user's.
-/

namespace RelayChat

open Directory

/-- Nothing has changed except what belongs to connection `id`. -/
structure Directory.OnlyOwn (id : Handle) (d d' : Directory) : Prop where
  /-- The channels are the same. -/
  channels : d'.channels = d.channels
  /-- All others have the sessions that they had. -/
  sessions : ∀ k, k ≠ id → d'.session? k = d.session? k
  /-- All others hold the nicknames that they held. -/
  holders : ∀ n k, k ≠ id → (d'.holder? n = some k ↔ d.holder? n = some k)

section Outsiders

variable {site : Site} {d d' : Directory} {id : Handle} {tail new name n : String}
  {verb : Verb} {outcome : Outcome} {s : Session} {c : Channel} {call : Outgoing Message}
  {client : String}

/-! ## What belongs to others -/

/-- Holders need no argument of their own: they follow the sessions. -/
theorem Directory.OnlyOwn.of_agree (agree : d.NicknamesAgree) (agree' : d'.NicknamesAgree)
    (hchannels : ∀ name, d'.channel? name = d.channel? name)
    (hsessions : ∀ k, k ≠ id → d'.session? k = d.session? k) : OnlyOwn id d d' where
  channels := Std.ExtTreeMap.ext_getElem? fun name => hchannels name
  sessions := hsessions
  holders _ k hk := agree.holder?_of_session?_eq agree' (hsessions k hk)

/-- No channel lists the nickname of somebody who is not logged in, not even among its
operators. -/
theorem Directory.Sound.not_listed (hd : d.Sound) (hs : d.session? id = some s)
    (hn : s.nickname = some n) (hout : s.loggedIn = false) (hc : d.channel? name = some c) :
    n ∉ c.members ∧ n ∉ c.operators := by
  have hmember : n ∉ c.members := hd.not_mem_of_not_loggedIn hs hn hout hc
  exact ⟨hmember, fun ho => hmember ((hd.channels name c hc).operators_sub n ho)⟩

/-- A new nickname of somebody who is not logged in concerns no channel. -/
theorem channel?_takeNickname_of_not_loggedIn (hd : d.Sound) (hs : d.session? id = some s)
    (hout : s.loggedIn = false) : (d.takeNickname id new).channel? name = d.channel? name := by
  rw [channel?_takeNickname hs]
  cases hn : s.nickname with
  | none => rfl
  | some old =>
    cases hc : d.channel? name with
    | none => rfl
    | some c =>
      obtain ⟨hmember, hoperator⟩ := hd.not_listed hs hn hout hc
      exact congrArg some (Channel.rename_of_not_mem hmember hoperator)

/-- Nor does its going. -/
theorem channel?_closeSession_of_not_loggedIn (hd : d.Sound) (hs : d.session? id = some s)
    (hout : s.loggedIn = false) : (d.closeSession id).channel? name = d.channel? name := by
  rw [channel?_closeSession hs]
  cases hn : s.nickname with
  | none => rfl
  | some old =>
    cases hc : d.channel? name with
    | none => rfl
    | some c =>
      exact (hd.channels name c hc).leave?_of_not_mem (hd.not_mem_of_not_loggedIn hs hn hout hc)

/-- The commands that concern channels are for users, so that nothing changes on any
channel at the command of somebody who is not logged in. -/
theorem Dispatch.Effect.channel?_of_not_loggedIn
    (h : Dispatch.Effect site d id tail verb outcome) (hd : d.Sound)
    (hout : d.isLoggedIn id = false) (hs : d.session? id = some s) :
    outcome.directory.channel? name = d.channel? name := by
  have hno : ¬d.isLoggedIn id = true := Bool.eq_false_iff.mp hout
  cases h with
  | idle => rfl
  | refused => rfl
  | wrongPassword => rfl
  | password => exact channel?_updateSession
  | capEnd => exact channel?_updateSession
  | capOther => exact channel?_updateSession
  | nickname =>
    exact channel?_takeNickname_of_not_loggedIn hd hs ((isLoggedIn_of_session? hs).symm.trans hout)
  | named => exact Registration.channel?_logIn.trans channel?_updateSession
  | namedUnproven => exact channel?_updateSession
  | joined hin => exact absurd hin hno
  | created hin => exact absurd hin hno
  | left reason hin => exact absurd hin hno
  | topicShown => rfl
  | topicSet hin => exact absurd hin hno
  | told => rfl
  | spoken => rfl
  | pong => rfl
  | quit => exact channel?_updateSession

/-! ## The two events of an outsider -/

/-- A line of somebody who is not logged in changes nothing of others', even if it
completes the login. -/
theorem Relay.onlyOwn_receive (site : Site) (text : String) (hd : d.Sound)
    (hout : d.isLoggedIn id = false) : OnlyOwn id d (Relay.receive site d id text).1 := by
  have hchanges := Relay.receive_changes site d id text
  refine OnlyOwn.of_agree hd.agree (keeps_of_changes (fun h hd => hd.change h) hchanges hd.agree)
    ?_ fun k hk => session?_of_changes_ne hchanges hk.symm
  intro name
  rcases Relay.receive_effect site d id text with he | ⟨s, request, outcome, hs, -, heffect, he⟩
  · rw [he]
  · have houtcome : outcome.directory.channel? name = d.channel? name :=
      heffect.channel?_of_not_loggedIn hd hout hs
    rw [he]
    rcases Dispatch.conclude_cases site id request.verb outcome with
      ⟨refusal, -, hc⟩ | ⟨-, -, hc⟩ | ⟨-, -, hc⟩
    · rw [hc, houtcome]
    · rw [hc, Registration.channel?_logIn, houtcome]
    · rw [hc, houtcome]

/-- Nor does its going. -/
theorem Relay.onlyOwn_drop (hd : d.Sound) (hout : d.isLoggedIn id = false) :
    OnlyOwn id d (Relay.drop d id).1 := by
  rw [Relay.drop_directory]
  refine OnlyOwn.of_agree hd.agree hd.agree.closeSession ?_ fun k hk => ?_
  · intro name
    cases hs : d.session? id with
    | none => rw [closeSession, hs]
    | some s =>
      exact channel?_closeSession_of_not_loggedIn hd hs
        ((isLoggedIn_of_session? hs).symm.trans hout)
  · rw [session?_closeSession, if_neg hk.symm]

/-- Nobody is told that somebody has gone who was not logged in. -/
theorem Relay.drop_calls_eq_nil (hout : d.isLoggedIn id = false) : (Relay.drop d id).2 = [] := by
  unfold Relay.drop
  cases hs : d.session? id with
  | none => rfl
  | some s =>
    rw [isLoggedIn_of_session? hs] at hout
    exact if_neg (Bool.eq_false_iff.mp hout)

/-- What is not a user's is said to the connection itself. -/
theorem Utterance.own_of_not_loggedIn (h : Utterance site d id client call)
    (hout : d.isLoggedIn id = false) : call.IsFor id := by
  have hno : ¬d.isLoggedIn id = true := Bool.eq_false_iff.mp hout
  cases h with
  | answer => exact .send _
  | closing => exact .send _
  | told _ _ hin => exact absurd hin hno
  | announced _ hin => exact absurd hin hno
  | cut => exact .disconnect

end Outsiders

namespace Relay

/-- Outsiders are harmless. In every state that a run reaches, whatever line a connection
sends that is not logged in, the channels stay as they are, all others keep their sessions
and their nicknames, and nothing is sent to anybody but the connection itself. When it
goes, nothing is sent at all. -/
theorem outsiders_harmless (site : Site) {events : List Event} (fresh : FreshHandles events)
    {id : Handle} (hout : (run site .empty events).isLoggedIn id = false) :
    let d := run site .empty events
    (∀ text, OnlyOwn id d (step site d (.line id text)).1 ∧
        ∀ call ∈ (step site d (.line id text)).2, call.IsFor id) ∧
      OnlyOwn id d (step site d (.drop id)).1 ∧ (step site d (.drop id)).2 = [] := by
  intro d
  have hd : d.Sound := run_sound site fresh
  refine ⟨fun text => ⟨onlyOwn_receive site text hd hout, ?_⟩, onlyOwn_drop hd hout,
    drop_calls_eq_nil hout⟩
  intro call hcall
  exact (utters_step site d (.line id text) call hcall).own_of_not_loggedIn hout

/-- Ann is on a channel, and a visitor has said everything but a nickname. -/
def doorstep : List Event :=
  [.connect 1, .line 1 "PASS secret", .line 1 "USER ann host", .line 1 "NICK ann",
    .line 1 "JOIN #lean", .connect 2, .line 2 "PASS secret", .line 2 "USER bob host"]

/-- The line that logs the visitor in leaves ann on her channel, and she is sent nothing. -/
theorem outsiders_harmless_doorstep :
    let d := run .sample .empty doorstep
    let after := step .sample d (.line 2 "NICK bob")
    FreshHandles doorstep ∧ d.isLoggedIn 2 = false ∧ after.1.isLoggedIn 2 = true ∧
      after.1.isOnChannel "#lean" "ann" = true ∧ after.1.holder? "ann" = some 1 ∧
      ∀ call ∈ after.2, call.IsFor 2 := by
  intro d after
  have fresh : FreshHandles doorstep := by decide
  have hout : d.isLoggedIn 2 = false := by decide +kernel
  have hin : after.1.isLoggedIn 2 = true := by decide +kernel
  have hon : d.isOnChannel "#lean" "ann" = true := by decide +kernel
  have hheld : d.holder? "ann" = some 1 := by decide +kernel
  obtain ⟨hown, hcalls⟩ := (outsiders_harmless .sample fresh hout).1 "NICK bob"
  refine ⟨fresh, hout, hin, ?_, (hown.holders "ann" 1 (by decide)).mpr hheld, hcalls⟩
  rwa [isOnChannel, channel?, hown.channels]

end Relay

end RelayChat
