import RelayChat.Proofs.FreshRuns

/-!
# The password is known by guessing only

Two relays that differ in nothing but their passwords cannot be told apart by connections
that try neither of them. The password is looked at in one place, where a line gives one,
and there it is only compared (`Dispatch.perform_withPassword`). Neither a greeting nor a
refusal nor any other text is made with it. So every event has the same effects at both
relays (`step_withPassword`), and by induction so has every series of events.
-/

namespace RelayChat

open Directory

/-- The same relay with another password. -/
def Site.withPassword (site : Site) (password : String) : Site :=
  { site with password := password }

/-- The password that a line gives, if that is what it does. -/
def Request.passwordTried? (text : String) : Option String :=
  (parse? text).bind fun request =>
    if request.verb = .pass then some (Words.firstParameter request.tail) else none

theorem Request.passwordTried?_of_parse? {text : String} {request : Request}
    (hparse : parse? text = some request) (hverb : request.verb = .pass) :
    passwordTried? text = some (Words.firstParameter request.tail) := by
  rw [passwordTried?, hparse, Option.bind_some, if_pos hverb]

/-- The password that somebody gives with an event. -/
def Event.passwordTried? : Event → Option String
  | line _ text => Request.passwordTried? text
  | _ => none

section Secrecy

variable {site : Site} {p q : String} {d : Directory} {id : Handle} {tail text : String}
  {verb : Verb}

namespace Dispatch

/-- A command does the same at both relays, unless it gives one of their passwords. -/
theorem perform_withPassword
    (h : verb = .pass → Words.firstParameter tail ≠ p ∧ Words.firstParameter tail ≠ q) :
    perform (site.withPassword p) d id tail verb =
      perform (site.withPassword q) d id tail verb := by
  cases verb with
  | pass =>
    obtain ⟨hp, hq⟩ := h rfl
    have hp : ¬Words.firstParameter tail = (site.withPassword p).password := hp
    have hq : ¬Words.firstParameter tail = (site.withPassword q).password := hq
    rw [perform, perform, Registration.pass, Registration.pass, if_neg hp, if_neg hq]
  | _ => rfl

/-- What follows a command is made without the password. -/
theorem conclude_withPassword (outcome : Outcome) :
    conclude (site.withPassword p) id verb outcome =
      conclude (site.withPassword q) id verb outcome :=
  rfl

/-- A line does the same at both relays, unless it gives one of their passwords. -/
theorem line_withPassword (hp : Request.passwordTried? text ≠ some p)
    (hq : Request.passwordTried? text ≠ some q) :
    line (site.withPassword p) d id text = line (site.withPassword q) d id text := by
  rcases known_or_idle text with ⟨request, hparse, hknown⟩ | hidle
  · have hperform : perform (site.withPassword p) d id request.tail request.verb =
        perform (site.withPassword q) d id request.tail request.verb := by
      refine perform_withPassword fun hverb => ?_
      have htried := Request.passwordTried?_of_parse? hparse hverb
      exact ⟨fun he => hp (he ▸ htried), fun he => hq (he ▸ htried)⟩
    rw [line_of_request _ d id hparse hknown, line_of_request _ d id hparse hknown, attempt,
      attempt, hperform]
    exact conclude_withPassword _
  · rw [line_of_idle _ d id hidle, line_of_idle _ d id hidle]

end Dispatch

namespace Relay

variable {event : Event} {events : List Event}

/-- An event has the same effects at both relays, unless it gives one of their passwords. -/
theorem step_withPassword (hp : event.passwordTried? ≠ some p)
    (hq : event.passwordTried? ≠ some q) :
    step (site.withPassword p) d event = step (site.withPassword q) d event := by
  cases event with
  | connect => rfl
  | line id text =>
    rw [step, step, receive, receive, Dispatch.line_withPassword hp hq]
  | drop => rfl

/-- What comes of a series of events: of each, the directory after it and the calls made. -/
def trace (site : Site) (d : Directory) : List Event → List (Directory × List (Outgoing Message))
  | [] => []
  | event :: events => step site d event :: trace site (step site d event).1 events

/-- The password is known by guessing only. Two relays that differ in nothing but their
passwords, and that begin with the same directory, make the same calls at every event and go
through the same directories, in whatever order connections come, send lines and go, as long
as no line gives one of the two passwords. -/
theorem password_hidden (site : Site) (d : Directory) {p q : String} {events : List Event}
    (hp : ∀ event ∈ events, event.passwordTried? ≠ some p)
    (hq : ∀ event ∈ events, event.passwordTried? ≠ some q) :
    trace (site.withPassword p) d events = trace (site.withPassword q) d events := by
  induction events generalizing d with
  | nil => rfl
  | cons event events ih =>
    have hstep : step (site.withPassword p) d event = step (site.withPassword q) d event :=
      step_withPassword (hp event List.mem_cons_self) (hq event List.mem_cons_self)
    have hlater := ih (step (site.withPassword q) d event).1
      (fun later hmem => hp later (List.mem_cons_of_mem event hmem))
      fun later hmem => hq later (List.mem_cons_of_mem event hmem)
    rw [trace, trace, hstep, hlater]

/-- One tries to log in without a password and with wrong ones, another looks on. -/
def siege : List Event :=
  [.connect 1, .connect 2, .line 1 "NICK ann", .line 1 "USER ann host", .line 2 "NICK bob",
    .line 1 "PASS", .line 1 "pass :Secret", .line 2 ":bob PASS sesam", .line 1 "JOIN #lean",
    .line 2 "QUIT", .drop 2, .drop 1]

/-- Neither password is among those that are tried, which are refused alike. -/
theorem password_hidden_siege :
    (siege.filterMap Event.passwordTried? = ["", "Secret", "sesam"]) ∧
      trace (Site.sample.withPassword "secret") .empty siege =
        trace (Site.sample.withPassword "sesame") .empty siege := by
  have htried : siege.filterMap Event.passwordTried? = ["", "Secret", "sesam"] := by
    decide +kernel
  have hmissed : ∀ password ∉ ["", "Secret", "sesam"],
      ∀ event ∈ siege, event.passwordTried? ≠ some password := by
    intro password hnot event hmem he
    refine hnot ?_
    rw [← htried]
    exact List.mem_filterMap.mpr ⟨event, hmem, he⟩
  exact ⟨htried, password_hidden .sample .empty (hmissed "secret" (by decide))
    (hmissed "sesame" (by decide))⟩

end Relay

end Secrecy

end RelayChat
