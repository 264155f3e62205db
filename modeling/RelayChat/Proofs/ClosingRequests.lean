import RelayChat.Proofs.Calls
import RelayChat.Proofs.RefusedCommands
import RelayChat.Proofs.WordLists

/-!
# When a connection is to be closed

A connection is closed at its own request, or over the password: because it gave a wrong
one, or because it said who it is without having given any (`CostsConnection`). Quitting
makes the request itself, the other two end in a refusal that makes it. Either way the
sender is told first, so that what it is told goes out before the connection ends
(`TakesLeave`), and nobody else's connection is concerned.

A connection that comes, or that is gone, gives no reason to close any.
-/

namespace RelayChat

open Directory

/-- No connection is to be closed. -/
def KeepsAll (calls : List (Outgoing Message)) : Prop :=
  Outgoing.All Outgoing.Keeps calls

theorem KeepsAll.not_mem {calls : List (Outgoing Message)} (h : KeepsAll calls) (who : Handle) :
    .disconnect who ∉ calls :=
  h (.disconnect who)

/-- The last thing that happens is that the sender is told why its connection will be
closed, and that it is to be. -/
def TakesLeave (id : Handle) (calls : List (Outgoing Message)) : Prop :=
  ∃ before reason, calls = before ++ [.send id (Refusal.closingLink reason), .disconnect id] ∧
    KeepsAll before

namespace TakesLeave

variable {id who : Handle} {calls : List (Outgoing Message)}

theorem mem (h : TakesLeave id calls) : .disconnect id ∈ calls := by
  obtain ⟨before, reason, rfl, -⟩ := h
  simp

/-- Whoever takes leave is the only one whose connection is closed. -/
theorem eq_of_mem (h : TakesLeave id calls) (hmem : .disconnect who ∈ calls) : who = id := by
  obtain ⟨before, reason, rfl, hbefore⟩ := h
  rcases List.mem_append.mp hmem with hmem | hmem
  · exact absurd hmem (hbefore.not_mem who)
  · simpa using hmem

end TakesLeave

/-- The closing message as it goes out. -/
theorem Refusal.render_closingLink (reason : String) :
    (closingLink reason).render = "ERROR :Closing link: (" ++ reason ++ ")\r\n" :=
  String.toList_inj.mp (by
    simp [closingLink, Message.render, Message.ofBody, Body.render, Body.renderFreeText,
      Message.lineEnd])

section Closing

variable {site : Site} {d : Directory} {id : Handle} {tail : String} {verb : Verb}
  {outcome : Outcome} {refusal : Refusal}

/-! ## What is asked for -/

theorem Registration.keepsAll_logIn : KeepsAll (logIn site d id).2 := by
  rcases logIn_cases site d id with ⟨he, -⟩ | ⟨s, -, -, -, he⟩
  · rw [he]
    exact .nil
  · rw [he]
    exact .map fun _ _ => trivial

namespace Dispatch

theorem keepsAll_announceJoin (channel : Channel) (name : String) :
    KeepsAll (ChannelCommands.announceJoin site d id channel name) :=
  .append (.sendAll _ fun _ => trivial) (.cons trivial (.cons trivial (.single trivial)))

/-- No command but QUIT asks to close a connection. -/
theorem Effect.keepsAll (h : Effect site d id tail verb outcome) (hverb : verb ≠ .quit) :
    KeepsAll outcome.calls := by
  cases h with
  | idle => exact .nil
  | refused => exact .nil
  | wrongPassword => exact .nil
  | password => exact .nil
  | capEnd => exact .nil
  | capOther => exact .single trivial
  | nickname =>
    dsimp only [Outcome.done]
    split
    · exact .single trivial
    · exact .nil
  | named => exact Registration.keepsAll_logIn
  | namedUnproven => exact .nil
  | joined => exact keepsAll_announceJoin _ _
  | created => exact keepsAll_announceJoin _ _
  | left => exact .sendAll _ fun _ => trivial
  | topicShown => exact .single trivial
  | topicSet => exact .sendAll _ fun _ => trivial
  | told => exact .single trivial
  | spoken => exact .sendAll _ fun _ => trivial
  | pong => exact .single trivial
  | quit => exact absurd rfl hverb

theorem keepsAll_rejection (h : refusal.disconnects = false) :
    KeepsAll (rejection site d id verb refusal) := by
  rw [rejection, h, if_neg Bool.false_ne_true, List.append_nil]
  exact .map fun _ _ => trivial

/-- Whoever is rejected over the password is told three things, and closed. -/
theorem takesLeave_rejection : TakesLeave id (rejection site d id verb .passwordMismatch) :=
  ⟨[_, _], "Access denied", rfl, .cons trivial (.single trivial)⟩

/-- Whoever quits is told one thing, and closed. -/
theorem takesLeave_quit :
    TakesLeave id (conclude site id .quit (attempt site d id tail .quit)).2 :=
  ⟨[], _, rfl, .nil⟩

/-- A refusal over the password is the end of the connection. -/
theorem Effect.takesLeave (h : Effect site d id tail verb outcome)
    (hr : outcome.refusal = some .passwordMismatch) :
    TakesLeave id (conclude site id verb outcome).2 := by
  rw [conclude_of_refused hr, (h.of_refused hr).1, List.nil_append]
  exact takesLeave_rejection

/-- Nothing else that a command can come to is. -/
theorem Effect.keepsAll_conclude (h : Effect site d id tail verb outcome) (hverb : verb ≠ .quit)
    (hr : outcome.refusal ≠ some .passwordMismatch) :
    KeepsAll (conclude site id verb outcome).2 := by
  have hcalls : KeepsAll outcome.calls := h.keepsAll hverb
  rcases conclude_cases site id verb outcome with ⟨refusal, hrefusal, he⟩ | ⟨-, -, he⟩ | ⟨-, -, he⟩
  · rw [he]
    refine hcalls.append (keepsAll_rejection ?_)
    rw [← Bool.not_eq_true, Refusal.disconnects_iff]
    rintro rfl
    exact hr hrefusal
  · rw [he]
    exact hcalls.append Registration.keepsAll_logIn
  · rw [he]
    exact hcalls

end Dispatch

/-! ## Who gives reason for it -/

/-- A wrong password is refused as long as one is asked for at all. -/
theorem Registration.pass_refusal (hout : d.isLoggedIn id = false)
    (hne : Words.firstParameter tail ≠ site.password) :
    (pass site d id tail).refusal = some .passwordMismatch := by
  rw [pass, hout, if_neg Bool.false_ne_true, if_neg hne]
  rfl

/-- Whoever says who it is must have given the password. -/
theorem Registration.user_refusal {s : Session} (hs : d.session? id = some s)
    (hout : s.loggedIn = false) (hp : s.passwordGiven = false)
    (hwords : 2 ≤ (Words.words tail).length) :
    (user site d id tail).refusal = some .passwordMismatch := by
  obtain ⟨huser, hhost⟩ := (Words.two_le_length_words tail).mp hwords
  have hlog : d.isLoggedIn id = false := (isLoggedIn_of_session? hs).trans hout
  have hgiven : ¬((Words.split tail).1.isEmpty ||
      (Words.split (Words.split tail).2).1.isEmpty) = true := by
    simpa using ⟨huser, hhost⟩
  unfold user
  rw [hlog, if_neg Bool.false_ne_true]
  dsimp only
  rw [if_neg hgiven, hs]
  dsimp only
  rw [hp, if_neg Bool.false_ne_true]

namespace Dispatch

/-- What costs the sender of a line its connection. -/
inductive CostsConnection (site : Site) (d : Directory) (id : Handle) (text : String) : Prop where
  /-- It quits. -/
  | quit {tail : String} (hgives : Request.Gives text .quit tail)
  /-- It is not logged in and gives a wrong password. -/
  | wrongPassword {tail : String} (hgives : Request.Gives text .pass tail)
      (hout : d.isLoggedIn id = false) (hne : Words.firstParameter tail ≠ site.password)
  /-- It is not logged in, has given no password, and gives a user name and a host name. -/
  | unproven {tail : String} {s : Session} (hgives : Request.Gives text .user tail)
      (hs : d.session? id = some s) (hout : s.loggedIn = false) (hp : s.passwordGiven = false)
      (hwords : 2 ≤ (Words.words tail).length)

variable {text : String} {request : Request}

/-- Whoever is refused over the password has brought it about in one of the two ways. -/
theorem costsConnection_of_refusal (hparse : Request.parse? text = some request)
    (hr : (attempt site d id request.tail request.verb).refusal = some .passwordMismatch) :
    CostsConnection site d id text := by
  have heffect : Effect site d id request.tail request.verb _ := attempt_effect request.verb
  generalize hattempt : attempt site d id request.tail request.verb = outcome at hr heffect
  generalize hverb : request.verb = verb at heffect hattempt
  cases heffect with
  | refused _ _ hkeeps =>
    cases hr
    cases hkeeps
  | wrongPassword hout hne => exact .wrongPassword ⟨request, hparse, hverb, rfl⟩ hout hne
  | namedUnproven username hostname hs hout hp =>
    have hnames : (Registration.user site d id request.tail).refusal = some .passwordMismatch :=
      congrArg Outcome.refusal hattempt
    exact .unproven ⟨request, hparse, hverb, rfl⟩ hs hout hp
      ((Words.two_le_length_words _).mpr (Registration.names_of_passwordMismatch hnames))
  | _ => cases hr

theorem line_takesLeave (h : CostsConnection site d id text) :
    TakesLeave id (line site d id text).2 := by
  cases h with
  | quit hgives =>
    obtain ⟨request, hparse, hverb, rfl⟩ := hgives
    rw [line_of_request site d id hparse (by rw [hverb]; decide), hverb]
    exact takesLeave_quit
  | wrongPassword hgives hout hne =>
    obtain ⟨request, hparse, hverb, rfl⟩ := hgives
    rw [line_of_request site d id hparse (by rw [hverb]; decide), hverb]
    exact (attempt_effect .pass).takesLeave (Registration.pass_refusal hout hne)
  | unproven hgives hs hout hp hwords =>
    obtain ⟨request, hparse, hverb, rfl⟩ := hgives
    rw [line_of_request site d id hparse (by rw [hverb]; decide), hverb]
    exact (attempt_effect .user).takesLeave (Registration.user_refusal hs hout hp hwords)

theorem line_keepsAll (h : ¬CostsConnection site d id text) :
    KeepsAll (line site d id text).2 := by
  rcases known_or_idle text with ⟨request, hparse, hknown⟩ | hidle
  · rw [line_of_request site d id hparse hknown]
    exact (attempt_effect request.verb).keepsAll_conclude
      (fun hquit => h (.quit ⟨request, hparse, hquit, rfl⟩))
      fun hr => h (costsConnection_of_refusal hparse hr)
  · rw [line_of_idle site d id hidle]
    exact .nil

/-- How connections come to be closed. A line makes at most one request to close one, for its
sender, as the last thing and right after an ERROR line. It is made exactly if the line costs
the sender its connection, whatever the directory. -/
theorem disconnect_requests (site : Site) (d : Directory) (id : Handle) (text : String) :
    let calls := (line site d id text).2
    (∀ who, .disconnect who ∈ calls → who = id ∧ ∃ before told reason,
        calls = before ++ [.send id told, .disconnect id] ∧
          told.render = "ERROR :Closing link: (" ++ reason ++ ")\r\n" ∧
          ∀ k, .disconnect k ∉ before) ∧
      ((∃ who, .disconnect who ∈ calls) ↔ CostsConnection site d id text) ∧
      ∀ k, .disconnect k ∉ (Relay.connect d id).2 ∧ .disconnect k ∉ (Relay.drop d id).2 := by
  intro calls
  have hdrop : KeepsAll (Relay.drop d id).2 := by
    rw [Relay.drop]
    cases d.session? id with
    | none => exact .nil
    | some s =>
      dsimp only
      split
      · exact .single trivial
      · exact .nil
  have hothers (k : Handle) :
      .disconnect k ∉ (Relay.connect d id).2 ∧ .disconnect k ∉ (Relay.drop d id).2 :=
    ⟨List.not_mem_nil, hdrop.not_mem k⟩
  by_cases hcosts : CostsConnection site d id text
  · have hleave : TakesLeave id calls := line_takesLeave hcosts
    have hasked : (∃ who, .disconnect who ∈ calls) ↔ CostsConnection site d id text :=
      ⟨fun _ => hcosts, fun _ => ⟨id, hleave.mem⟩⟩
    refine ⟨fun who hmem => ⟨hleave.eq_of_mem hmem, ?_⟩, hasked, hothers⟩
    obtain ⟨before, reason, he, hbefore⟩ := hleave
    exact ⟨before, _, reason, he, Refusal.render_closingLink reason, hbefore.not_mem⟩
  · have hkeeps : KeepsAll calls := line_keepsAll hcosts
    have hasked : (∃ who, .disconnect who ∈ calls) ↔ CostsConnection site d id text :=
      ⟨fun ⟨who, hmem⟩ => absurd hmem (hkeeps.not_mem who), fun h => absurd h hcosts⟩
    exact ⟨fun who hmem => absurd hmem (hkeeps.not_mem who), hasked, hothers⟩

end Dispatch

end Closing

end RelayChat
