import RelayChat.Loopback
import RelayChat.Proofs.ServerRuns
import RelayChat.Proofs.UnsaidMessages
import RelayChat.RelayHandler

/-!
# A wrong password is final

The relay by itself would let a connection try again. But the replies to a wrong
password are followed by a request to close the connection, so that in the server it is
not read any more: no line of it is handed on, not even one that has arrived already,
and nothing is queued for it after the closing message. Without lines of its own its
session is never logged in (`isLoggedIn_after_append`).
-/

namespace RelayChat

open Directory

/-! ## The relay's refusal -/

/-- Whether a message tells that the password was wrong or missing. -/
def Message.refusesPassword (message : Message) : Bool :=
  match message.body with
  | .numeric .passwordMismatch _ => true
  | _ => false

/-- What a connection is told of a wrong password, and that it is to be closed. -/
def passwordRejection (site : Site) (id : Handle) (client : String) : List (Outgoing Message) :=
  [.send id ((Reply.passwordMismatch client).withOrigin site.origin),
    .send id ((Reply.notRegistered client).withOrigin site.origin),
    .send id (Refusal.closingLink "Access denied"), .disconnect id]

section Refusal

variable {site : Site} {d : Directory} {id k : Handle} {tail : String} {verb : Verb}
  {outcome : Outcome} {s : Session} {message : Message}

theorem sparesSuccess_refusesPassword : SparesSuccess Message.refusesPassword := by
  intro origin number args h
  cases number <;> first | rfl | cases h

/-- Only the refusal for a wrong password tells of it. -/
theorem Refusal.eq_passwordMismatch_of_mem {refusal : Refusal} {server client command : String}
    (h : message ∈ refusal.replies server client command)
    (hpassword : message.refusesPassword = true) : refusal = .passwordMismatch := by
  have hother : ∀ other : Refusal, other.disconnects = false →
      message ∉ other.replies server client command := by
    intro other hother hmem
    rw [replies, hother, if_neg Bool.false_ne_true, List.append_nil] at hmem
    obtain ⟨bare, hbare, rfl⟩ := List.mem_map.mp hmem
    cases other <;>
      simp only [numerics, List.mem_cons, List.not_mem_nil, or_false] at hbare <;>
      first
      | exact absurd hother (by decide)
      | (subst hbare; cases hpassword)
      | (rcases hbare with rfl | rfl <;> cases hpassword)
  cases hdisconnects : refusal.disconnects with
  | false => exact absurd h (hother refusal hdisconnects)
  | true => exact disconnects_iff.mp hdisconnects

/-- No command tells of a wrong password unless it is refused for it. -/
theorem Dispatch.Effect.lacks_refusesPassword (h : Dispatch.Effect site d id tail verb outcome) :
    Lacks Message.refusesPassword outcome.calls := by
  refine h.lacks_isExceptional.weaken fun message hpassword => ?_
  unfold Message.refusesPassword at hpassword
  split at hpassword
  · rename_i hbody
    rw [Message.isExceptional, hbody]
    rfl
  · cases hpassword

/-- A command that is refused for a wrong password says nothing else, and its sender is
not logged in by it. -/
theorem Dispatch.Effect.of_passwordMismatch (h : Dispatch.Effect site d id tail verb outcome)
    (hr : outcome.refusal = some .passwordMismatch) :
    outcome.calls = [] ∧ outcome.directory.isLoggedIn id = false := by
  cases h with
  | refused _ refusal hkeeps =>
    cases hr
    cases hkeeps
  | wrongPassword hout => exact ⟨rfl, hout⟩
  | namedUnproven username hostname hs hout =>
    refine ⟨rfl, ?_⟩
    have hsame : (d.nameUser id username hostname).isLoggedIn id = d.isLoggedIn id :=
      isLoggedIn_updateSession fun _ => rfl
    exact hsame.trans ((isLoggedIn_of_session? hs).trans hout)
  | _ => cases hr

/-- In a refusal its replies are sent to whoever is refused. -/
theorem Dispatch.of_mem_rejection {who : Handle} {refusal : Refusal}
    (h : .send who message ∈ rejection site d id verb refusal) :
    id = who ∧ message ∈ refusal.replies site.name (d.address id) verb.spelling := by
  unfold rejection at h
  rcases List.mem_append.mp h with hsent | hcut
  · obtain ⟨reply, hreply, he⟩ := List.mem_map.mp hsent
    cases he
    exact ⟨rfl, hreply⟩
  · split at hcut
    · cases List.mem_singleton.mp hcut
    · cases hcut

/-- The relay tells of a wrong password only in answer to a line, to its sender, and
with the request to close the connection. -/
theorem Relay.step_of_refusesPassword {event : Event}
    (h : .send id message ∈ (Relay.step site d event).2)
    (hpassword : message.refusesPassword = true) :
    ∃ text client, event = .line id text ∧
      (Relay.step site d event).2 = passwordRejection site id client ∧
      (Relay.step site d event).1.isLoggedIn id = false := by
  have hlacks : ∀ calls, Lacks Message.refusesPassword calls → .send id message ∉ calls := by
    intro calls hlacks hmem
    cases hpassword.symm.trans (hlacks _ hmem)
  cases event with
  | connect => exact absurd h List.not_mem_nil
  | line who text =>
    rw [Relay.step] at h ⊢
    rcases Relay.receive_effect site d who text with
      he | ⟨s, request, outcome, hs, -, heffect, he⟩
    · rw [he] at h
      exact absurd h List.not_mem_nil
    · rw [he] at h ⊢
      have hcalls := hlacks outcome.calls heffect.lacks_refusesPassword
      rcases Dispatch.conclude_cases site who request.verb outcome with
        ⟨refusal, hr, hc⟩ | ⟨-, -, hc⟩ | ⟨-, -, hc⟩
      · rw [hc] at h ⊢
        have hmem := (List.mem_append.mp h).resolve_left hcalls
        obtain ⟨rfl, hreply⟩ := Dispatch.of_mem_rejection hmem
        obtain rfl := Refusal.eq_passwordMismatch_of_mem hreply hpassword
        obtain ⟨hnil, hout⟩ := heffect.of_passwordMismatch hr
        rw [hnil]
        exact ⟨text, _, rfl, rfl, hout⟩
      · rw [hc] at h
        have hmem := (List.mem_append.mp h).resolve_left hcalls
        exact absurd hmem (hlacks _ (lacks_logIn sparesSuccess_refusesPassword))
      · rw [hc] at h
        exact absurd h hcalls
  | drop who =>
    refine absurd h (hlacks _ ?_)
    rw [Relay.step, Relay.drop]
    cases d.session? who with
    | none => exact .nil
    | some s =>
      dsimp only
      split
      · exact .single rfl
      · exact .nil

/-- Nobody is logged in without a line of its own. -/
theorem Relay.isLoggedIn_step_of_other {event : Event} (hout : d.isLoggedIn id = false)
    (hother : ∀ text, event ≠ .line id text) :
    (Relay.step site d event).1.isLoggedIn id = false := by
  cases event with
  | connect who =>
    rw [Relay.step, Relay.connect_directory, isLoggedIn, session?_openSession]
    split
    · rfl
    · exact hout
  | line who text =>
    have hne : who ≠ id := fun he => hother text (he ▸ rfl)
    have hsame := session?_of_changes_ne (Relay.receive_changes site d who text) hne
    rw [Relay.step, isLoggedIn, hsame]
    exact hout
  | drop who =>
    rw [Relay.step, Relay.drop_directory, isLoggedIn, session?_closeSession]
    split
    · rfl
    · exact hout

end Refusal

/-! ## In the server -/

section Journal

variable {site : Site} {id : Handle} {client : String} {later past : List Entry}

/-- The entries of the calls that reject a password. -/
def rejectionEntries (site : Site) (id : Handle) (client : String) : List Entry :=
  ((passwordRejection site id client).map fun call =>
    Entry.called (call.map Message.render)).reverse

/-- The texts that a connection gets when its password is rejected. -/
def rejectionTexts (site : Site) (client : String) : List String :=
  [((Reply.passwordMismatch client).withOrigin site.origin).render,
    ((Reply.notRegistered client).withOrigin site.origin).render,
    (Refusal.closingLink "Access denied").render]

theorem answers_of_rejection {start : Directory} {event : Event} {count : Nat}
    (h : (Relay.step site ((Relay.handler site).after start past) event).2 =
      passwordRejection site id client) :
    (Relay.handler site).answers start past event count = rejectionEntries site id client := by
  rw [Handler.answers, Relay.handler, rejectionEntries, ← h, List.map_map]
  rfl

/-- A connection that is open gets the texts, and is to be closed after them. -/
theorem rejection_takes_effect (site : Site) (client : String)
    (hopen : standing id past = .active) :
    standing id (rejectionEntries site id client ++ past) = .closing ∧
      queued id (rejectionEntries site id client ++ past) =
        queued id past ++ rejectionTexts site client := by
  have hasked : Standing.asked .active = .closing := rfl
  constructor
  · simp [rejectionEntries, passwordRejection, Outgoing.map, standing, Entry.moves, hopen, hasked]
  · simp [rejectionEntries, passwordRejection, Outgoing.map, standing, Entry.moves, hopen,
      queued, Outgoing.heardBy, rejectionTexts]

/-- Nobody is logged in whose lines are not handed on. -/
theorem isLoggedIn_after_append {start : Directory}
    (hlines : ∀ text count, .raised (.line id text) count ∉ later)
    (hout : ((Relay.handler site).after start past).isLoggedIn id = false) :
    ((Relay.handler site).after start (later ++ past)).isLoggedIn id = false := by
  induction later with
  | nil => exact hout
  | cons entry later ih =>
    have hbefore := ih fun text count hmem => hlines text count (List.mem_cons_of_mem entry hmem)
    cases entry with
    | raised event count =>
      refine Relay.isLoggedIn_step_of_other hbefore ?_
      rintro text rfl
      exact hlines text count List.mem_cons_self
    | called => exact hbefore
    | received => exact hbefore
    | wrote => exact hbefore
    | writeFailed => exact hbefore
    | closed => exact hbefore

end Journal

namespace Multiplexer

/-- A wrong password is final, in every run of the server with the relay. The connection that is
told of it is asked to be closed at once, nothing more is queued for it, no line of it is handed
on afterwards, and it is never logged in from then on. -/
theorem password_rejection_final {ε : Type} (net : Host ε) (site : Site)
    (listen : ListenSettings) (host : ε) (demands : List (Demand ε))
    {later past : List Entry} {event : Event} {count : Nat} {id : Handle}
    {origin : Option Origin} {args : List String}
    (hjournal : (run net (Relay.handler site) (create listen .empty host) demands).journal =
      later ++ .raised event count :: past)
    (hsent : .send id ⟨origin, .numeric .passwordMismatch args⟩ ∈
      (Relay.step site ((Relay.handler site).after .empty past) event).2) :
    let m := run net (Relay.handler site) (create listen .empty host) demands
    ∃ text client rest, event = .line id text ∧
      later = rest ++ [.called (.disconnect id),
        .called (.send id (Refusal.closingLink "Access denied").render),
        .called (.send id ((Reply.notRegistered client).withOrigin site.origin).render),
        .called (.send id ((Reply.passwordMismatch client).withOrigin site.origin).render)] ∧
      queued id m.journal = queued id past ++
        [((Reply.passwordMismatch client).withOrigin site.origin).render,
          ((Reply.notRegistered client).withOrigin site.origin).render,
          (Refusal.closingLink "Access denied").render] ∧
      (∀ text count, .raised (.line id text) count ∉ later) ∧
      (∀ since, since <:+ later →
        ((Relay.handler site).after .empty (since ++ .raised event count :: past)).isLoggedIn id =
          false) ∧
      m.state = (Relay.handler site).after .empty m.journal ∧
      m.state.isLoggedIn id = false ∧ m.board.accepts id = false := by
  intro m
  have hm : Consistent (Relay.handler site) .empty m := run_consistent net _ listen _ host demands
  have hanswered : (Relay.handler site).Answered .empty m.journal :=
    run_answered net _ listen _ host demands
  obtain ⟨text, client, rfl, hcalls, hout⟩ := Relay.step_of_refusesPassword hsent rfl
  obtain ⟨rest, hlater⟩ := hanswered later _ count past hjournal
  rw [answers_of_rejection hcalls] at hlater
  -- the line was handed on, so the connection was open and is now to be closed
  have hlawful : Lawful (rest ++ (rejectionEntries site id client ++
      .raised (.line id text) count :: past)) := by
    rw [← List.append_assoc, hlater, ← hjournal]
    exact hm.lawful
  have hopen : standing id (.raised (.line id text) count :: past) = .active :=
    hlawful.of_append.of_append.1
  obtain ⟨hclosing, hqueued⟩ := rejection_takes_effect site client hopen
  have hover : (standing id (rejectionEntries site id client ++
      .raised (.line id text) count :: past)).IsOver := Or.inl hclosing
  have hjournal' : m.journal = rest ++ (rejectionEntries site id client ++
      .raised (.line id text) count :: past) := by
    rw [← List.append_assoc, hlater]
    exact hjournal
  have hlines : ∀ text count, .raised (.line id text) count ∉ later := by
    intro text' count' hmem
    rw [← hlater] at hmem
    rcases List.mem_append.mp hmem with hmem | hmem
    · exact line_not_mem_of_isOver hlawful hover text' count' hmem
    · simp [rejectionEntries] at hmem
  have hnever : ∀ since, since <:+ later → ((Relay.handler site).after .empty
      (since ++ .raised (.line id text) count :: past)).isLoggedIn id = false := by
    rintro since ⟨_, rfl⟩
    refine isLoggedIn_after_append (fun text' count' hmem => ?_) hout
    exact hlines text' count' (List.mem_append_right _ hmem)
  have hstate : m.state.isLoggedIn id = false := by
    rw [hm.state, show m.journal = _ from hjournal]
    exact hnever later List.suffix_rfl
  have haccepts : m.board.accepts id = false := by
    rw [← Bool.not_eq_true, Switchboard.accepts_iff_closing?, hm.closing?, hjournal']
    intro haccepts
    exact (isOver_append hlawful hover).ne_active (Standing.eq_active_of_closing? haccepts)
  refine ⟨text, client, rest, rfl, hlater.symm, ?_, hlines, hnever, hm.state, hstate, haccepts⟩
  rw [hjournal', queued_append_of_isOver hlawful hover, hqueued]
  rfl

/-- A client connects and sends a wrong password together with all that would log it in. -/
def guesses : List (Demand Loopback) :=
  [.activate, .meanwhile (·.connect 1), .wait,
    .meanwhile (·.write 1
      (LossyUtf8.encode "PASS wrong\r\nPASS secret\r\nNICK ann\r\nUSER ann host\r\n") false),
    .wait]

/-- The lines after the wrong password come too late. -/
theorem password_rejection_final_guesses :
    let m := run Loopback.host (Relay.handler .sample)
      (create ⟨6667, ""⟩ .empty (Loopback.idle true false)) guesses
    ∃ later past client, m.journal = later ++ .raised (.line 1 "PASS wrong") 1 :: past ∧
      queued 1 m.journal = queued 1 past ++
        [((Reply.passwordMismatch client).withOrigin Site.sample.origin).render,
          ((Reply.notRegistered client).withOrigin Site.sample.origin).render,
          (Refusal.closingLink "Access denied").render] ∧
      (∀ text count, .raised (.line 1 text) count ∉ later) ∧ m.state.isLoggedIn 1 = false := by
  intro m
  have hjournal :
      m.journal = m.journal.take 7 ++ .raised (.line 1 "PASS wrong") 1 :: m.journal.drop 8 := by
    decide +kernel
  have hsent : .send 1 ⟨some (.server "relay"), .numeric .passwordMismatch
      ["*", "Password incorrect"]⟩ ∈
        (Relay.step .sample ((Relay.handler .sample).after .empty (m.journal.drop 8))
          (.line 1 "PASS wrong")).2 := by
    decide +kernel
  obtain ⟨_, client, _, _, _, hqueued, hlines, _, _, hout, _⟩ :=
    password_rejection_final Loopback.host .sample ⟨6667, ""⟩ (Loopback.idle true false) guesses
      hjournal hsent
  exact ⟨m.journal.take 7, m.journal.drop 8, client, hjournal, hqueued, hlines, hout⟩

end Multiplexer

end RelayChat
