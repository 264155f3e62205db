import RelayChat.Proofs.ChannelDelivery
import RelayChat.Proofs.ChannelReplicas
import RelayChat.Proofs.Outsiders

/-!
# Farewells

Whoever is logged in is said farewell to once, when its connection is gone. The reason is
the one that it gave itself, and if it asked to quit more than once, the last one counts,
even if that gave none.

The reason waits in the session. A request to quit notes it and no other line touches it
(`farewell?_receive`), so that it is at all times that of the last request since the
connection came (`farewell_of_run`). The news goes out when the session is closed, and no
event but this one tells that somebody is gone (`lacks_isQuit_step`).
-/

namespace RelayChat

open Directory

/-! ## Requests to quit -/

/-- The reason that a line gives for leaving, which may be empty; `none` if it does not ask
to quit. -/
def Request.quitReason? (text : String) : Option String :=
  (parse? text).bind fun request =>
    if request.verb = .quit then some (Words.trailing request.tail) else none

theorem Request.quitReason?_eq_some_iff {text reason : String} :
    quitReason? text = some reason ↔
      ∃ tail, Gives text .quit tail ∧ Words.trailing tail = reason := by
  unfold quitReason?
  simp only [Option.bind_eq_some_iff, Option.ite_none_right_eq_some, Option.some.injEq]
  constructor
  · rintro ⟨request, hparse, hverb, hreason⟩
    exact ⟨request.tail, ⟨request, hparse, hverb, rfl⟩, hreason⟩
  · rintro ⟨tail, ⟨request, hparse, hverb, rfl⟩, hreason⟩
    exact ⟨request, hparse, hverb, hreason⟩

namespace Words

theorem reason?_of_ne {text : String} (hne : text ≠ "") : reason? text = some text :=
  if_neg fun hempty => hne (String.isEmpty_iff.mp hempty)

/-- An empty reason is none. -/
theorem bind_reason?_eq_none {last : Option String} (h : ∀ text, last = some text → text = "") :
    last.bind reason? = none := by
  cases last with
  | none => rfl
  | some text =>
    rw [h text rfl]
    rfl

end Words

namespace Event

/-- The reason that a connection gives for leaving with an event, if it asks to quit. -/
def quitReason? (id : Handle) : Event → Option String
  | line k text => if k = id then Request.quitReason? text else none
  | _ => none

/-- The reasons that a connection gave for leaving, in order. -/
def quitReasons (id : Handle) (events : List Event) : List String :=
  events.filterMap (quitReason? id)

theorem quitReasons_concat (id : Handle) (past : List Event) (event : Event) :
    quitReasons id (past ++ [event]) = quitReasons id past ++ (quitReason? id event).toList := by
  rw [quitReasons, List.filterMap_append, List.filterMap_cons, List.filterMap_nil, quitReasons]
  cases quitReason? id event <;> rfl

end Event

/-! ## What is kept until then -/

namespace Directory

/-- The reason for leaving that a connection gave, as it is kept. -/
def farewell? (d : Directory) (id : Handle) : Option String :=
  (d.session? id).bind Session.farewell

variable {d d' : Directory} {id : Handle} {s : Session}

theorem farewell?_of_session? (hs : d.session? id = some s) : d.farewell? id = s.farewell := by
  rw [farewell?, hs, Option.bind_some]

theorem farewell?_congr (h : d'.session? id = d.session? id) :
    d'.farewell? id = d.farewell? id := by
  rw [farewell?, h, farewell?]

/-- A note of something else. -/
theorem farewell?_updateSession {f : Session → Session} (hf : ∀ s, (f s).farewell = s.farewell) :
    (d.updateSession id f).farewell? id = d.farewell? id := by
  rw [farewell?, session?_updateSession, if_pos rfl, farewell?]
  cases d.session? id with
  | none => rfl
  | some s => exact hf s

theorem farewell?_takeNickname {n : String} :
    (d.takeNickname id n).farewell? id = d.farewell? id := by
  rw [farewell?, session?_takeNickname, if_pos rfl, farewell?]
  cases d.session? id <;> rfl

theorem farewell?_logIn {site : Site} :
    (Registration.logIn site d id).1.farewell? id = d.farewell? id := by
  rcases Registration.logIn_cases site d id with ⟨he, -⟩ | ⟨s, -, -, -, he⟩
  · rw [he]
  · rw [he]
    exact farewell?_updateSession fun _ => rfl

end Directory

section Lines

variable {site : Site} {d : Directory} {id : Handle} {tail text : String} {verb : Verb}
  {outcome : Outcome} {s : Session}

/-- No command but one touches the reason that is kept. -/
theorem Dispatch.Effect.farewell?_eq (h : Dispatch.Effect site d id tail verb outcome)
    (hverb : verb ≠ .quit) : outcome.directory.farewell? id = d.farewell? id := by
  cases h with
  | idle => rfl
  | refused => rfl
  | wrongPassword => rfl
  | password => exact farewell?_updateSession fun _ => rfl
  | capEnd => exact farewell?_updateSession fun _ => rfl
  | capOther => exact farewell?_updateSession fun _ => rfl
  | nickname => exact farewell?_takeNickname
  | named => exact farewell?_logIn.trans (farewell?_updateSession fun _ => rfl)
  | namedUnproven => exact farewell?_updateSession fun _ => rfl
  | joined => rfl
  | created => rfl
  | left => rfl
  | topicShown => rfl
  | topicSet => rfl
  | told => rfl
  | spoken => rfl
  | pong => rfl
  | quit => exact absurd rfl hverb

/-- Nor does its conclusion. -/
theorem Dispatch.Effect.farewell?_conclude (h : Dispatch.Effect site d id tail verb outcome)
    (hverb : verb ≠ .quit) :
    (Dispatch.conclude site id verb outcome).1.farewell? id = d.farewell? id := by
  have hsame : outcome.directory.farewell? id = d.farewell? id := h.farewell?_eq hverb
  rcases Dispatch.conclude_cases site id verb outcome with
    ⟨refusal, -, he⟩ | ⟨-, -, he⟩ | ⟨-, -, he⟩
  · rw [he, hsame]
  · rw [he, farewell?_logIn, hsame]
  · rw [he, hsame]

namespace Relay

/-- A request to quit is granted to everybody, and its reason is kept. -/
theorem receive_quit (site : Site) (hs : d.session? id = some s)
    (hgives : Request.Gives text .quit tail) :
    (receive site d id text).1 =
      d.updateSession id ({ · with farewell := Words.reason? (Words.trailing tail) }) := by
  have hattempt : Dispatch.attempt site d id tail .quit = Conversation.quit d id tail :=
    if_neg Bool.false_ne_true
  rw [receive_of_gives site hs hgives (by decide), hattempt]
  rfl

/-- After a line, the reason that is kept is the one that the line gave if it asked to quit,
and the one that was kept before otherwise. -/
theorem farewell?_receive (hs : d.session? id = some s) :
    (receive site d id text).1.farewell? id =
      match Request.quitReason? text with
      | some reason => Words.reason? reason
      | none => d.farewell? id := by
  cases hreason : Request.quitReason? text with
  | some reason =>
    obtain ⟨tail, hgives, rfl⟩ := Request.quitReason?_eq_some_iff.mp hreason
    rw [receive_quit site hs hgives, farewell?, session?_updateSession, if_pos rfl, hs]
    rfl
  | none =>
    rcases receive_effect site d id text with he | ⟨_, request, outcome, -, hparse, heffect, he⟩
    · rw [he]
    · have hother : request.verb ≠ .quit := by
        intro hverb
        have hgives : Request.Gives text .quit request.tail := ⟨request, hparse, hverb, rfl⟩
        rw [Request.quitReason?_eq_some_iff.mpr ⟨request.tail, hgives, rfl⟩] at hreason
        cases hreason
      rw [he, heffect.farewell?_conclude hother]

end Relay

end Lines

namespace Relay

variable {site : Site} {d : Directory} {events : List Event} {event : Event} {id : Handle}
  {s t : Session}

/-- While a session lasts, no event but a request of its own to quit touches the reason that
is kept. -/
theorem farewell_step (hopened : event ≠ .connect id) (hs : d.session? id = some s)
    (ht : (step site d event).1.session? id = some t) :
    t.farewell = match event.quitReason? id with
      | some reason => Words.reason? reason
      | none => s.farewell := by
  rw [← farewell?_of_session? ht, ← farewell?_of_session? hs]
  cases event with
  | connect k =>
    have hk : ¬k = id := fun he => hopened (congrArg Event.connect he)
    exact farewell?_congr (session?_openSession.trans (if_neg hk))
  | line k text =>
    by_cases hk : k = id
    · rw [step, Event.quitReason?, if_pos hk, hk, farewell?_receive hs]
    · rw [step, Event.quitReason?, if_neg hk]
      exact farewell?_congr (session?_of_changes_ne (receive_changes site d k text) hk)
  | drop k =>
    rw [step, drop_directory, session?_closeSession] at ht
    by_cases hk : k = id
    · rw [if_pos hk] at ht
      cases ht
    · rw [step, drop_directory]
      exact farewell?_congr (session?_closeSession.trans (if_neg hk))

/-- The reason that is kept is that of the last request to quit since the connection came. -/
theorem farewell_of_run (site : Site) (fresh : FreshHandles events)
    (hs : (run site .empty events).session? id = some s) :
    ∃ before since, events = before ++ .connect id :: since ∧
      s.farewell = (Event.quitReasons id since).getLast?.bind Words.reason? := by
  refine session_induction site
    (P := fun since s => s.farewell = (Event.quitReasons id since).getLast?.bind Words.reason?)
    rfl ?_ fresh hs
  intro d since event s t hopened hs ht ih
  rw [farewell_step hopened hs ht, Event.quitReasons_concat]
  cases event.quitReason? id with
  | some reason => rw [Option.toList_some, List.getLast?_concat, Option.bind_some]
  | none => rw [Option.toList_none, List.append_nil, ih]

end Relay

/-! ## What the others are told -/

/-- Whether a message tells that somebody is gone. -/
def Message.isQuit (message : Message) : Bool :=
  match message.body with
  | .quit _ => true
  | _ => false

theorem Message.isExceptional_of_isQuit {message : Message} (h : message.isQuit = true) :
    message.isExceptional = true := by
  unfold isQuit at h
  split at h
  · rename_i hbody
    rw [isExceptional, hbody]
  · cases h

theorem Message.isNews_of_isQuit {message : Message} (h : message.isQuit = true) :
    message.isNews = true := by
  unfold isQuit at h
  split at h
  · rename_i hbody
    rw [isNews, hbody]
  · cases h

/-- The news of somebody who is gone, as it goes out. -/
theorem Message.render_quit (nickname username hostname reason : String) :
    render ⟨some (.user nickname username hostname), .quit reason⟩ =
      ":" ++ nickname ++ "!" ++ username ++ "@" ++ hostname ++ " QUIT :" ++ reason ++ "\r\n" := by
  apply String.toList_inj.mp
  simp [render, Body.render, Body.renderFreeText, Origin.render, lineEnd]

namespace Relay

variable {site : Site} {d : Directory} {events : List Event} {event : Event} {id : Handle}

/-- No line tells that somebody is gone. -/
theorem lacks_isQuit_receive (site : Site) (d : Directory) (id : Handle) (text : String) :
    Lacks Message.isQuit (receive site d id text).2 := by
  have hsuccess : SparesSuccess Message.isQuit := fun _ _ _ _ => rfl
  rcases receive_effect site d id text with he | ⟨_, request, outcome, -, -, heffect, he⟩
  · rw [he]
    exact .nil
  · have hcalls : Lacks Message.isQuit outcome.calls :=
      heffect.lacks_isExceptional.weaken fun _ => Message.isExceptional_of_isQuit
    rw [he]
    rcases Dispatch.conclude_cases site id request.verb outcome with
      ⟨refusal, -, hc⟩ | ⟨-, -, hc⟩ | ⟨-, -, hc⟩
    · rw [hc]
      exact hcalls.append (lacks_news_rejection.weaken fun _ => Message.isNews_of_isQuit)
    · rw [hc]
      exact hcalls.append (lacks_logIn hsuccess)
    · rw [hc]
      exact hcalls

/-- Nor does any event but the end of a connection that is logged in. -/
theorem lacks_isQuit_step (site : Site) (hout : ∀ id, event = .drop id → d.isLoggedIn id = false) :
    Lacks Message.isQuit (step site d event).2 := by
  cases event with
  | connect id => exact .nil
  | line id text => exact lacks_isQuit_receive site d id text
  | drop id =>
    rw [step, drop_calls_eq_nil (hout id rfl)]
    exact .nil

/-- Where nobody was, nobody goes. -/
theorem drop_of_unknown (hs : d.session? id = none) : drop d id = (d, []) := by
  rw [drop, hs]

/-- Whoever is logged in goes with one farewell, to all. -/
theorem drop_of_loggedIn {s : Session} {nickname username hostname : String}
    (hs : d.session? id = some s) (hin : s.loggedIn = true)
    (horigin : s.origin = .user nickname username hostname) :
    drop d id = (d.closeSession id, [.broadcast ⟨some (.user nickname username hostname),
      .quit (s.farewell.getD "Client disconnected")⟩]) := by
  rw [drop, hs]
  dsimp only
  rw [if_pos hin, farewell, horigin]
  rfl

/-- A connection that is gone and does not come again has no session. -/
theorem session?_of_gone (site : Site) (hs : d.session? id = none)
    (hgone : .connect id ∉ events) : (run site d events).session? id = none := by
  induction events generalizing d with
  | nil => exact hs
  | cons event after ih =>
    rw [List.mem_cons, not_or] at hgone
    refine ih ?_ hgone.2
    rw [← Option.not_isSome_iff_eq_none, isSome_session?_step]
    rintro (he | ⟨-, hsome⟩)
    · exact hgone.1 he.symm
    · rw [hs] at hsome
      cases hsome

/-- A connection that came and is gone has no session any more. -/
theorem session?_of_dropped (site : Site) {past since : List Event}
    (fresh : FreshHandles (past ++ .drop id :: since)) (hcame : .connect id ∈ past) :
    (run site .empty (past ++ .drop id :: since)).session? id = none := by
  have hgone : .connect id ∉ since := by
    intro hmem
    have hopened : Event.opened (past ++ .drop id :: since) =
        Event.opened past ++ Event.opened since := by
      rw [Event.opened, List.filterMap_append, List.filterMap_cons]
      rfl
    rw [FreshHandles, hopened] at fresh
    exact (List.nodup_append.mp fresh).2.2 id (Event.mem_opened.mpr hcame) id
      (Event.mem_opened.mpr hmem) rfl
  have hclosed : (step site (run site .empty past) (.drop id)).1.session? id = none := by
    rw [step, drop_directory, session?_closeSession, if_pos rfl]
  rw [run_append, run, List.foldl_cons]
  exact session?_of_gone site hclosed hgone

/-- One farewell. When a connection goes that is logged in, all are told so once, with the reason
of its last request to quit or a standing phrase, and its nickname is free. When any other
goes, nothing is sent, and no other event tells that anybody is gone. -/
theorem one_farewell (site : Site) {events : List Event} (fresh : FreshHandles events) :
    let d := run site .empty events
    (∀ id s, d.session? id = some s → s.loggedIn = true →
      ∃ before since nickname username hostname reason,
        events = before ++ .connect id :: since ∧ s.nickname = some nickname ∧
        s.username = some username ∧ s.hostname = some hostname ∧
        (∀ text, (Event.quitReasons id since).getLast? = some text → text ≠ "" →
          reason = text) ∧
        ((∀ text, (Event.quitReasons id since).getLast? = some text → text = "") →
          reason = "Client disconnected") ∧
        let gone := step site d (.drop id)
        gone.2.map (Outgoing.map Message.render) =
          [.broadcast (":" ++ nickname ++ "!" ++ username ++ "@" ++ hostname ++ " QUIT :" ++
            reason ++ "\r\n")] ∧
        gone.1.holder? nickname = none ∧
        ∀ name c, gone.1.channel? name = some c → nickname ∉ c.members ∧ nickname ∉ c.operators) ∧
      (∀ id, d.isLoggedIn id = false → (step site d (.drop id)).2 = []) ∧
      (∀ id, d.session? id = none → step site d (.drop id) = (d, [])) ∧
      (∀ id past since, events = past ++ .drop id :: since → .connect id ∈ past →
        step site d (.drop id) = (d, [])) ∧
      ∀ event, (∀ id, event = .drop id → d.isLoggedIn id = false) →
        Lacks Message.isQuit (step site d event).2 := by
  intro d
  have hd : d.Sound := run_sound site fresh
  refine ⟨fun id s hs hin => ?_, fun id => drop_calls_eq_nil, fun id => drop_of_unknown, ?_,
    fun event => lacks_isQuit_step site⟩
  · obtain ⟨before, since, hevents, hfarewell⟩ := farewell_of_run site fresh hs
    obtain ⟨nickname, username, hostname, hnickname, husername, hhostname, -⟩ :=
      hd.admissible.exists_names hs hin
    have hgone : step site d (.drop id) = _ :=
      drop_of_loggedIn hs hin (Session.origin_of_names hnickname husername hhostname)
    have hheld : d.holder? nickname = some id := hd.agree.holder?_of_session? hs hnickname
    have hfree : (d.closeSession id).holder? nickname = none := by
      rw [holder?_closeSession hs, if_pos ⟨hnickname, hheld⟩]
    refine ⟨before, since, nickname, username, hostname, s.farewell.getD "Client disconnected",
      hevents, hnickname, husername, hhostname, ?_, ?_, ?_⟩
    · intro text hlast hne
      rw [hfarewell, hlast, Option.bind_some, Words.reason?_of_ne hne, Option.getD_some]
    · intro hnone
      rw [hfarewell, Words.bind_reason?_eq_none hnone, Option.getD_none]
    · intro gone
      have hclosed : gone = _ := hgone
      rw [hclosed, ← Message.render_quit]
      exact ⟨rfl, hfree, fun name c hc =>
        ⟨hd.closeSession.not_mem_of_free hfree hc, hd.closeSession.not_operator_of_free hfree hc⟩⟩
  · rintro id past since rfl hcame
    exact drop_of_unknown (session?_of_dropped site fresh hcame)

/-- After the gathering bob asks to quit and takes another nickname, ann takes her reason back,
a visitor asks to quit who is not logged in, and eve is gone. -/
def departures : List Event :=
  gathering ++
    [.line 2 "QUIT :see you", .line 2 "NICK bill", .line 3 "quit :bye", .line 3 "QUIT",
      .connect 5, .line 5 "QUIT :hello", .drop 4]

/-- Bob's reason is told under his new nickname, ann goes without one, and of the others nothing
is said. -/
theorem one_farewell_departures :
    let d := run .sample .empty departures
    let bob := step .sample d (.drop 2)
    FreshHandles departures ∧ d.nickname? 2 = some "bill" ∧ d.isLoggedIn 2 = true ∧
      d.isLoggedIn 5 = false ∧
      bob.2.map (Outgoing.map Message.render) = [.broadcast ":bill!bob@host QUIT :see you\r\n"] ∧
      (step .sample d (.drop 3)).2.map (Outgoing.map Message.render) =
        [.broadcast ":ann!ann@host QUIT :Client disconnected\r\n"] ∧
      bob.1.holder? "bill" = none ∧
      (∀ name c, bob.1.channel? name = some c → "bill" ∉ c.members ∧ "bill" ∉ c.operators) ∧
      (step .sample d (.drop 5)).2 = [] ∧ step .sample d (.drop 4) = (d, []) ∧
      step .sample d (.drop 6) = (d, []) ∧
      Lacks Message.isQuit (step .sample d (.line 2 "QUIT :again")).2 := by
  intro d bob
  have fresh : FreshHandles departures := by decide
  -- the run is evaluated once for all that is read off it
  obtain ⟨hs, hout, hunknown, hbob, hann⟩ : d.session? 2 =
        some ⟨some "bill", some "bob", some "host", true, false, false, true, some "see you"⟩ ∧
      d.isLoggedIn 5 = false ∧ d.session? 6 = none ∧
      bob.2.map (Outgoing.map Message.render) = [.broadcast ":bill!bob@host QUIT :see you\r\n"] ∧
      (step .sample d (.drop 3)).2.map (Outgoing.map Message.render) =
        [.broadcast ":ann!ann@host QUIT :Client disconnected\r\n"] := by
    decide +kernel
  obtain ⟨htold, hsilent, hnobody, hagain, hother⟩ := one_farewell .sample fresh
  obtain ⟨_, _, nickname, _, _, _, -, hnickname, -, -, -, -, -, hfree, hgone⟩ := htold 2 _ hs rfl
  cases hnickname
  have heve : step .sample d (.drop 4) = (d, []) :=
    hagain 4 departures.dropLast [] rfl (by decide)
  exact ⟨fresh, nickname?_of_session? hs, isLoggedIn_of_session? hs, hout, hbob, hann, hfree, hgone,
    hsilent 5 hout, heve, hnobody 6 hunknown, hother _ fun _ he => nomatch he⟩

end Relay

end RelayChat
