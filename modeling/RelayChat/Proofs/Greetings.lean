import RelayChat.Proofs.SessionProgress

/-!
# Greetings

The replies 001 to 004 go to a connection in the very event that logs it in and
in no other. `Greets` says of a change of the directory and the calls made with it
that exactly those who are logged in by it are greeted. It holds of a login, of
every command and, because two such changes in a row compose, of every event.
-/

namespace RelayChat

open Relation Directory

namespace Outgoing

/-- The payloads that reach a connection, in order. -/
def heardBy {α : Type} (id : Handle) (calls : List (Outgoing α)) : List α :=
  calls.filterMap fun
    | .send who payload => if who = id then some payload else none
    | .broadcast payload => some payload
    | .disconnect _ => none

variable {α : Type} {id : Handle}

theorem heardBy_append (first second : List (Outgoing α)) :
    heardBy id (first ++ second) = heardBy id first ++ heardBy id second :=
  List.filterMap_append

theorem mem_of_mem_heardBy {calls : List (Outgoing α)} {payload : α}
    (h : payload ∈ heardBy id calls) :
    .send id payload ∈ calls ∨ .broadcast payload ∈ calls := by
  unfold heardBy at h
  obtain ⟨call, hmem, he⟩ := List.mem_filterMap.mp h
  cases call with
  | send who p =>
    dsimp only at he
    split at he
    · rename_i hwho
      cases he
      exact Or.inl (hwho ▸ hmem)
    · cases he
  | broadcast p =>
    cases he
    exact Or.inr hmem
  | disconnect => cases he

end Outgoing

/-- The number of a reply that greets, 001 to 004. -/
def Message.greeting? (message : Message) : Option Nat :=
  match message.body with
  | .numeric number _ => if number.code ≤ 4 then some number.code else none
  | _ => none

/-- The numbers of the greetings that reach a connection, in order. -/
def greetings (id : Handle) (calls : List (Outgoing Message)) : List Nat :=
  (Outgoing.heardBy id calls).filterMap Message.greeting?

/-- The numbers of the greetings that are due to a connection that is logged in
on the way from one directory to another. -/
def due (d d' : Directory) (id : Handle) : List Nat :=
  if d.isLoggedIn id = false ∧ d'.isLoggedIn id = true then [1, 2, 3, 4] else []

/-- Exactly those who are logged in are greeted. -/
def Greets (d d' : Directory) (calls : List (Outgoing Message)) : Prop :=
  ∀ id, greetings id calls = due d d' id

section Greetings

variable {d d' d'' : Directory} {id : Handle} {calls more : List (Outgoing Message)}

theorem greetings_append :
    greetings id (calls ++ more) = greetings id calls ++ greetings id more := by
  rw [greetings, Outgoing.heardBy_append, List.filterMap_append, greetings, greetings]

/-- Calls without any greeting. -/
theorem greetings_eq_nil
    (h : ∀ message, (∃ who, .send who message ∈ calls) ∨ .broadcast message ∈ calls →
      message.greeting? = none) : greetings id calls = [] := by
  rw [greetings, List.filterMap_eq_nil_iff]
  intro message hheard
  exact h message ((Outgoing.mem_of_mem_heardBy hheard).imp (fun hsend => ⟨id, hsend⟩) fun hb => hb)

theorem greetings_sendAll (ids : List Handle) {message : Message}
    (h : message.greeting? = none) : greetings id (Outgoing.sendAll ids message) = [] := by
  apply greetings_eq_nil
  intro heard hmem
  simp only [Outgoing.sendAll, List.mem_map, Outgoing.send.injEq, reduceCtorEq, and_false,
    exists_const, or_false] at hmem
  obtain ⟨_, _, _, _, rfl⟩ := hmem
  exact h

/-- Nobody is due a greeting who is logged in before or not logged in after. -/
theorem due_eq_nil (h : d'.isLoggedIn id = true → d.isLoggedIn id = true) : due d d' id = [] := by
  refine if_neg ?_
  rintro ⟨hout, hin⟩
  rw [h hin] at hout
  cases hout

/-- Calls without any greeting fit a change by which nobody is logged in. -/
theorem Greets.of_quiet (hcalls : ∀ id, greetings id calls = [])
    (hin : ∀ id, d'.isLoggedIn id = true → d.isLoggedIn id = true) : Greets d d' calls :=
  fun id => (hcalls id).trans (due_eq_nil (hin id)).symm

/-- Two changes in a row, the second of which takes no login back. -/
theorem Greets.append (hfirst : Greets d d' calls) (hsecond : Greets d' d'' more)
    (hmono : ∀ id, d.isLoggedIn id = true → d'.isLoggedIn id = true)
    (hmono' : ∀ id, d'.isLoggedIn id = true → d''.isLoggedIn id = true) :
    Greets d d'' (calls ++ more) := by
  intro id
  rw [greetings_append, hfirst id, hsecond id]
  cases hd : d.isLoggedIn id
  · cases hd' : d'.isLoggedIn id
    · simp [due, hd, hd']
    · simp [due, hd, hd', hmono' id hd']
  · have hd' := hmono id hd
    simp [due, hd, hd']

end Greetings

/-! ## Who greets -/

namespace Refusal

variable {refusal : Refusal} {server client command : String} {message : Message}

/-- A refusal is answered with numbers that report errors and name the recipient first. -/
theorem isError_of_mem_numerics (h : message ∈ refusal.numerics client command) :
    ∃ number args, message = Reply.numbered number (client :: args) ∧ number.isError = true := by
  cases refusal <;>
    simp only [numerics, List.mem_cons, List.not_mem_nil, or_false] at h <;>
    first
    | exact ⟨_, _, h, rfl⟩
    | exact h.elim (fun h => ⟨_, _, h, rfl⟩) fun h => ⟨_, _, h, rfl⟩

/-- Nobody is greeted by a refusal. -/
theorem greeting?_of_mem_replies (h : message ∈ refusal.replies server client command) :
    message.greeting? = none := by
  unfold replies at h
  rcases List.mem_append.mp h with h | h
  · obtain ⟨bare, hbare, rfl⟩ := List.mem_map.mp h
    obtain ⟨number, args, rfl, herror⟩ := isError_of_mem_numerics hbare
    have hcode : ¬number.code ≤ 4 := by
      simp only [Numeric.isError, Bool.and_eq_true, decide_eq_true_eq] at herror
      omega
    exact if_neg hcode
  · split at h
    · rw [List.mem_singleton.mp h]
      rfl
    · cases h

end Refusal

section Gate

variable {site : Site} {d d' : Directory} {id k : Handle} {tail : String} {verb : Verb}
  {outcome : Outcome} {s : Session}

/-- A login greets whom it logs in. -/
theorem greets_logIn (site : Site) (d : Directory) (id : Handle) :
    Greets d (Registration.logIn site d id).1 (Registration.logIn site d id).2 := by
  rcases Registration.logIn_cases site d id with ⟨he, -⟩ | ⟨s, hs, hout, -, he⟩
  · rw [he]
    exact Greets.of_quiet (fun _ => rfl) fun _ hin => hin
  · rw [he]
    intro k
    by_cases hk : id = k
    · subst hk
      have hbefore : d.isLoggedIn id = false := (isLoggedIn_of_session? hs).trans hout
      have hafter : (d.updateSession id ({ · with loggedIn := true })).isLoggedIn id = true := by
        rw [isLoggedIn, session?_updateSession, if_pos rfl, hs]
        rfl
      rw [due, if_pos ⟨hbefore, hafter⟩]
      simp [greetings, Outgoing.heardBy, Registration.greeting, Site.reply, Message.greeting?,
        Message.withOrigin, Reply.welcome, Reply.yourHost, Reply.created, Reply.myInfo,
        Reply.numbered, Message.ofBody, Numeric.code]
    · have hsame : (d.updateSession id ({ · with loggedIn := true })).isLoggedIn k =
          d.isLoggedIn k := by
        rw [isLoggedIn, session?_updateSession, if_neg hk, isLoggedIn]
      rw [due_eq_nil fun hin => hsame ▸ hin]
      simp [greetings, Outgoing.heardBy, Site.reply, hk]

/-- A refusal greets nobody. -/
theorem greetings_rejection {refusal : Refusal} :
    greetings k (Dispatch.rejection site d id verb refusal) = [] := by
  apply greetings_eq_nil
  intro message hmem
  have hreply : message ∈ refusal.replies site.name (d.address id) verb.spelling := by
    unfold Dispatch.rejection at hmem
    cases hr : refusal.disconnects <;> simpa [hr] using hmem
  exact Refusal.greeting?_of_mem_replies hreply

/-- What a newcomer to a channel causes greets nobody. -/
theorem greetings_announceJoin {channel : Channel} {name : String} :
    greetings k (ChannelCommands.announceJoin site d id channel name) = [] := by
  unfold ChannelCommands.announceJoin
  dsimp only
  rw [greetings_append, greetings_sendAll _ rfl, List.nil_append]
  apply greetings_eq_nil
  intro message hmem
  simp only [Site.reply, List.mem_cons, Outgoing.send.injEq, reduceCtorEq, List.not_mem_nil,
    or_false] at hmem
  obtain ⟨_, ⟨_, rfl⟩ | ⟨_, rfl⟩ | ⟨_, rfl⟩⟩ := hmem
  · unfold ChannelCommands.topicReply
    split <;> rfl
  · rfl
  · rfl

/-- Nobody is greeted for a note that logs nobody in. -/
theorem Greets.of_note {f : Session → Session} {calls : List (Outgoing Message)}
    (hcalls : ∀ id, greetings id calls = []) (hf : ∀ s, (f s).loggedIn = s.loggedIn) :
    Greets d (d.updateSession id f) calls :=
  Greets.of_quiet hcalls fun _ hin => (isLoggedIn_updateSession hf).symm.trans hin

/-- A command greets exactly those whom it logs in. -/
theorem Dispatch.Effect.greets (h : Dispatch.Effect site d id tail verb outcome) :
    Greets d outcome.directory outcome.calls := by
  cases h with
  | idle => exact Greets.of_quiet (fun _ => rfl) fun _ hin => hin
  | refused => exact Greets.of_quiet (fun _ => rfl) fun _ hin => hin
  | wrongPassword => exact Greets.of_quiet (fun _ => rfl) fun _ hin => hin
  | password => exact Greets.of_note (fun _ => rfl) fun _ => rfl
  | capEnd => exact Greets.of_note (fun _ => rfl) fun _ => rfl
  | capOther =>
    refine Greets.of_note (fun k => ?_) fun _ => rfl
    exact greetings_sendAll [id] rfl
  | nickname =>
    refine Greets.of_quiet (fun k => ?_) fun k hin => isLoggedIn_takeNickname.symm.trans hin
    dsimp only [Outcome.done]
    split <;> rfl
  | named username hostname hs hout hp =>
    have hnote : Greets d (d.nameUser id username hostname) [] :=
      Greets.of_note (fun _ => rfl) fun _ => rfl
    have hsame : ∀ k, (d.nameUser id username hostname).isLoggedIn k = d.isLoggedIn k :=
      fun k => isLoggedIn_updateSession fun _ => rfl
    exact hnote.append (greets_logIn site _ id) (fun k hin => (hsame k).trans hin)
      fun k hin => isLoggedIn_of_changes (Dispatch.logIn_changes site _ id) hin
  | namedUnproven => exact Greets.of_note (fun _ => rfl) fun _ => rfl
  | joined => exact Greets.of_quiet (fun _ => greetings_announceJoin) fun _ hin => hin
  | created => exact Greets.of_quiet (fun _ => greetings_announceJoin) fun _ hin => hin
  | left => exact Greets.of_quiet (fun _ => greetings_sendAll _ rfl) fun _ hin => hin
  | topicShown =>
    refine Greets.of_quiet (fun _ => ?_) fun _ hin => hin
    refine greetings_sendAll [id] ?_
    unfold ChannelCommands.topicReply
    split <;> rfl
  | topicSet => exact Greets.of_quiet (fun _ => greetings_sendAll _ rfl) fun _ hin => hin
  | @told holder =>
    exact Greets.of_quiet (fun _ => greetings_sendAll [holder] rfl) fun _ hin => hin
  | spoken => exact Greets.of_quiet (fun _ => greetings_sendAll _ rfl) fun _ hin => hin
  | pong =>
    exact Greets.of_quiet (fun _ => greetings_sendAll [id] rfl) fun _ hin => hin
  | quit =>
    refine Greets.of_note (fun k => ?_) fun _ => rfl
    change greetings k (Outgoing.sendAll [id] _ ++ [.disconnect id]) = []
    rw [greetings_append, greetings_sendAll [id] rfl]
    rfl

/-- The conclusion of a command greets exactly those whom the line logs in. -/
theorem Dispatch.Effect.greets_conclude (h : Dispatch.Effect site d id tail verb outcome)
    (hs : d.session? id = some s) :
    Greets d (Dispatch.conclude site id verb outcome).1
      (Dispatch.conclude site id verb outcome).2 := by
  have hmono : ∀ k, d.isLoggedIn k = true → outcome.directory.isLoggedIn k = true :=
    fun k hin => isLoggedIn_of_changes (h.changes hs) hin
  rcases Dispatch.conclude_cases site id verb outcome with
    ⟨refusal, -, he⟩ | ⟨-, -, he⟩ | ⟨-, -, he⟩
  · rw [he]
    exact h.greets.append (Greets.of_quiet (fun _ => greetings_rejection) fun _ hin => hin) hmono
      fun _ hin => hin
  · rw [he]
    exact h.greets.append (greets_logIn site outcome.directory id) hmono
      fun _ hin => isLoggedIn_of_changes (Dispatch.logIn_changes site outcome.directory id) hin
  · rw [he]
    exact h.greets

/-- Every event greets exactly those whom it logs in, whatever the directory. -/
theorem Relay.greets_step (site : Site) (d : Directory) (event : Event) :
    Greets d (Relay.step site d event).1 (Relay.step site d event).2 := by
  cases event with
  | connect id =>
    refine Greets.of_quiet (fun _ => rfl) fun k hin => ?_
    rw [Relay.step, Relay.connect_directory, isLoggedIn, session?_openSession] at hin
    by_cases hk : id = k
    · rw [if_pos hk] at hin
      cases hin
    · rwa [if_neg hk] at hin
  | line id text =>
    rw [Relay.step]
    rcases Relay.receive_effect site d id text with
      he | ⟨s, request, outcome, hs, -, heffect, he⟩
    · rw [he]
      exact Greets.of_quiet (fun _ => rfl) fun _ hin => hin
    · rw [he]
      exact heffect.greets_conclude hs
  | drop id =>
    refine Greets.of_quiet (fun k => ?_) fun k hin => ?_
    · rw [Relay.step, Relay.drop]
      cases d.session? id with
      | none => rfl
      | some s =>
        dsimp only
        split <;> rfl
    · rw [Relay.step, Relay.drop_directory, isLoggedIn, session?_closeSession] at hin
      by_cases hk : id = k
      · rw [if_pos hk] at hin
        cases hin
      · rwa [if_neg hk] at hin

end Gate

end RelayChat
