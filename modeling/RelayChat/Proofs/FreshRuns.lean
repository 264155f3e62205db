import RelayChat.Proofs.DirectoryChanges
import RelayChat.Proofs.LineReading
import RelayChat.Relay

/-!
# Runs in which no handle comes back

Handles are counted up, so no connection ever opens one that was open before.
`FreshHandles` says this of a series of events; lines and drops may name any
handle at any time. What holds of the empty directory and survives each event of
such a series holds after all of them (`run_induction`), and an invariant of the
directory need only survive the elementary changes (`run_keeps`).
-/

namespace RelayChat

open Relation Directory

/-- Whatever stands in a history that ends with `last` is that last item, or stands in what
came before. -/
theorem last_or_before {α : Type} {past before since : List α} {item last : α}
    (h : past ++ [last] = before ++ item :: since) :
    (since = [] ∧ past = before ∧ last = item) ∨
      ∃ between, since = between ++ [last] ∧ past = before ++ item :: between := by
  rcases List.eq_nil_or_concat since with rfl | ⟨between, final, rfl⟩
  · obtain ⟨hpast, hlast⟩ := List.append_inj' h rfl
    exact Or.inl ⟨rfl, hpast, List.singleton_inj.mp hlast⟩
  · rw [List.concat_eq_append, ← List.cons_append, ← List.append_assoc] at h
    obtain ⟨hpast, hlast⟩ := List.append_inj' h rfl
    rw [List.concat_eq_append, hlast]
    exact Or.inr ⟨between, rfl, hpast⟩

namespace Event

/-- The handle that an event opens. -/
def opened? : Event → Option Handle
  | connect id => some id
  | _ => none

/-- The handles that a series of events opens. -/
def opened (events : List Event) : List Handle :=
  events.filterMap opened?

theorem mem_opened {events : List Event} {id : Handle} :
    id ∈ opened events ↔ .connect id ∈ events := by
  unfold opened
  rw [List.mem_filterMap]
  constructor
  · rintro ⟨event, hmem, he⟩
    cases event with
    | connect k =>
      cases he
      exact hmem
    | line => cases he
    | drop => cases he
  · intro hmem
    exact ⟨_, hmem, rfl⟩

end Event

/-- A series of events that opens no handle twice. -/
def FreshHandles (events : List Event) : Prop :=
  (Event.opened events).Nodup

instance (events : List Event) : Decidable (FreshHandles events) :=
  inferInstanceAs (Decidable (Event.opened events).Nodup)

namespace FreshHandles

variable {past future : List Event} {event : Event} {id : Handle}

/-- What was so far is fresh as well. -/
theorem past_of_append (fresh : FreshHandles (past ++ future)) : FreshHandles past := by
  unfold FreshHandles Event.opened at fresh ⊢
  rw [List.filterMap_append] at fresh
  exact (List.nodup_append.mp fresh).1

/-- A handle that comes was not opened before. -/
theorem not_mem_opened (fresh : FreshHandles (past ++ [.connect id])) :
    id ∉ Event.opened past := by
  unfold FreshHandles Event.opened at fresh
  rw [List.filterMap_append] at fresh
  intro hmem
  exact (List.nodup_append.mp fresh).2.2 id hmem id (List.mem_singleton_self id) rfl

end FreshHandles

namespace Relay

variable {site : Site} {d : Directory} {events past future : List Event} {id : Handle}

theorem run_append (site : Site) (d : Directory) (past future : List Event) :
    run site d (past ++ future) = run site (run site d past) future :=
  List.foldl_append

theorem run_concat (site : Site) (d : Directory) (past : List Event) (event : Event) :
    run site d (past ++ [event]) = (step site (run site d past) event).1 :=
  run_append site d past [event]

/-- All calls made in a series of events, in order. -/
def calls (site : Site) (d : Directory) : List Event → List (Outgoing Message)
  | [] => []
  | event :: events => (step site d event).2 ++ calls site (step site d event).1 events

theorem calls_concat (site : Site) (d : Directory) (past : List Event) (event : Event) :
    calls site d (past ++ [event]) =
      calls site d past ++ (step site (run site d past) event).2 := by
  induction past generalizing d with
  | nil => simp only [List.nil_append, calls, List.append_nil, run, List.foldl_nil]
  | cons first past ih =>
    rw [List.cons_append, calls, calls, ih, List.append_assoc, run, run, List.foldl_cons]

/-- What holds at some point of a run and survives each fresh event holds at
every later point. -/
theorem run_induction (site : Site) (past future : List Event)
    {P : List Event → Directory → Prop}
    (hstep : ∀ past event, FreshHandles (past ++ [event]) → P past (run site .empty past) →
      P (past ++ [event]) (step site (run site .empty past) event).1)
    (fresh : FreshHandles (past ++ future)) (hpast : P past (run site .empty past)) :
    P (past ++ future) (run site .empty (past ++ future)) := by
  induction future generalizing past with
  | nil => rwa [List.append_nil]
  | cons event future ih =>
    rw [List.append_cons] at fresh ⊢
    apply ih (past ++ [event]) fresh
    rw [run_concat]
    exact hstep past event fresh.past_of_append hpast

/-- A line does nothing, or it is the concluded command of a connection that has a
session. -/
theorem receive_effect (site : Site) (d : Directory) (id : Handle) (text : String) :
    receive site d id text = (d, []) ∨
      ∃ s request outcome, d.session? id = some s ∧ Request.parse? text = some request ∧
        Dispatch.Effect site d id request.tail request.verb outcome ∧
        receive site d id text = Dispatch.conclude site id request.verb outcome := by
  unfold receive
  cases hs : d.session? id with
  | none => exact Or.inl rfl
  | some s =>
    rcases Dispatch.line_effect site d id text with he | ⟨request, outcome, hparse, heffect, he⟩
    · exact Or.inl he
    · exact Or.inr ⟨s, request, outcome, rfl, hparse, heffect, he⟩

section Requests

variable {text tail : String} {verb : Verb} {s : Session}

/-- A request of a connection that has a session is judged as an attempt. -/
theorem receive_of_gives (site : Site) (hs : d.session? id = some s)
    (hgives : Request.Gives text verb tail) (hknown : verb ≠ .unknown) :
    receive site d id text =
      Dispatch.conclude site id verb (Dispatch.attempt site d id tail verb) := by
  obtain ⟨request, hparse, rfl, rfl⟩ := hgives
  rw [receive, hs]
  exact Dispatch.line_of_request site d id hparse hknown

/-- What somebody who is logged in asks for is carried out. -/
theorem receive_of_loggedIn (site : Site) (hs : d.session? id = some s) (hin : s.loggedIn = true)
    (hgives : Request.Gives text verb tail) (hknown : verb ≠ .unknown) :
    receive site d id text =
      Dispatch.conclude site id verb (Dispatch.perform site d id tail verb) := by
  have hopen : ¬(verb.needsLogin && !d.isLoggedIn id) = true := by
    rw [isLoggedIn_of_session? hs, hin, Bool.not_true, Bool.and_false]
    exact Bool.false_ne_true
  rw [receive_of_gives site hs hgives hknown, Dispatch.attempt, if_neg hopen]

/-- What is for users only leaves everything as it is at the request of anybody else. -/
theorem receive_of_not_loggedIn (site : Site) (hgives : Request.Gives text verb tail)
    (hneeds : verb.needsLogin = true) (hout : d.isLoggedIn id = false) :
    (receive site d id text).1 = d := by
  have hknown : verb ≠ .unknown := by
    rintro rfl
    cases hneeds
  have hshut : (verb.needsLogin && !d.isLoggedIn id) = true := by
    rw [hneeds, hout]
    rfl
  cases hs : d.session? id with
  | none => rw [receive, hs]
  | some s =>
    rw [receive_of_gives site hs hgives hknown, Dispatch.attempt, if_pos hshut]
    rfl

end Requests

/-- What a line leaves comes from the sender's elementary changes. -/
theorem receive_changes (site : Site) (d : Directory) (id : Handle) (text : String) :
    ReflTransGen (Change id) d (receive site d id text).1 := by
  rcases receive_effect site d id text with he | ⟨s, request, outcome, hs, -, heffect, he⟩
  · rw [he]
  · rw [he]
    exact heffect.changes_conclude hs

theorem connect_directory (d : Directory) (id : Handle) : (connect d id).1 = d.openSession id :=
  rfl

/-- A connection that goes is forgotten; nothing happens if it was unknown. -/
theorem drop_directory (d : Directory) (id : Handle) : (drop d id).1 = d.closeSession id := by
  unfold drop closeSession
  cases d.session? id <;> rfl

/-- The sessions that are open after an event. -/
theorem isSome_session?_step (site : Site) (d : Directory) (event : Event) (k : Handle) :
    ((step site d event).1.session? k).isSome = true ↔
      event = .connect k ∨ event ≠ .drop k ∧ (d.session? k).isSome = true := by
  cases event with
  | connect id =>
    rw [step, connect_directory, session?_openSession]
    by_cases hk : id = k <;> simp [hk]
  | line id text =>
    have hsome : ((receive site d id text).1.session? k).isSome = (d.session? k).isSome :=
      keeps_of_changes (P := fun d' => (d'.session? k).isSome = (d.session? k).isSome)
        (fun hchange h => hchange.isSome_session?.trans h) (receive_changes site d id text) rfl
    rw [step, hsome]
    simp
  | drop id =>
    rw [step, drop_directory, session?_closeSession]
    by_cases hk : id = k <;> simp [hk]

/-- Only handles that were opened have sessions. -/
theorem mem_opened_of_session? {s : Session} (fresh : FreshHandles past)
    (hs : (run site .empty past).session? id = some s) : id ∈ Event.opened past := by
  have hall : ∀ k, ((run site .empty past).session? k).isSome = true → k ∈ Event.opened past := by
    refine run_induction site [] past
      (P := fun past d => ∀ k, (d.session? k).isSome = true → k ∈ Event.opened past) ?_ fresh ?_
    · intro past event _ ih k hk
      rw [Event.mem_opened, List.mem_append]
      rcases (isSome_session?_step site _ event k).mp hk with he | ⟨-, hk⟩
      · exact Or.inr (List.mem_singleton.mpr he.symm)
      · exact Or.inl (Event.mem_opened.mp (ih k hk))
    · intro k hk
      rw [run, List.foldl_nil, session?_empty] at hk
      cases hk
  exact hall id (Option.isSome_of_eq_some hs)

/-- A handle that comes has no session yet. -/
theorem session?_of_fresh (fresh : FreshHandles (past ++ [.connect id])) :
    (run site .empty past).session? id = none := by
  cases hs : (run site .empty past).session? id with
  | none => rfl
  | some s => exact absurd (mem_opened_of_session? fresh.past_of_append hs) fresh.not_mem_opened

/-- An invariant that holds of the empty directory and survives fresh sessions,
elementary changes and closed sessions holds throughout every run. -/
theorem run_keeps {P : Directory → Prop} (hempty : P .empty)
    (hopen : ∀ {d id}, d.session? id = none → P d → P (d.openSession id))
    (hchange : ∀ {d d' id}, Change id d d' → P d → P d')
    (hclose : ∀ {d id}, P d → P (d.closeSession id)) (fresh : FreshHandles events) :
    P (run site .empty events) := by
  refine run_induction site [] events (P := fun _ d => P d) ?_ fresh hempty
  intro past event fresh hd
  cases event with
  | connect id => exact hopen (session?_of_fresh fresh) hd
  | line id text =>
    exact keeps_of_changes hchange (receive_changes site (run site .empty past) id text) hd
  | drop id =>
    rw [step, drop_directory]
    exact hclose hd

end Relay

/-- A relay for worked runs. -/
def Site.sample : Site := ⟨"relay", "net", Site.standardVersion, 0, "secret"⟩

end RelayChat
