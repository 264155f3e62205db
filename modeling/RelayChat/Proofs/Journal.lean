import RelayChat.Multiplexer
import RelayChat.Proofs.Greetings

/-!
# Reading the journal

The journal of a server, the last thing first, tells how every connection stands
(`standing`), which texts were queued for it (`queued`) and in which state the handler
is (`Handler.after`). A journal is lawful if every entry may follow the entries before
it: handles are new when connections come, and lines are handed on only from
connections that are not to be closed. In a lawful journal nothing happens any more on
a connection that is over, except that it is closed. `Answered` says that every event is
followed by the calls with which the handler answers it. Whatever else is read off a
journal is `gathered` from what its entries tell one by one, and `Each` says of every
entry what may depend on those before it.
-/

namespace RelayChat

/-! ## Going through the entries -/

section Entries

variable {κ α : Type} {tell : κ → List α} {P : List κ → κ → Prop}
  {later past journal : List κ} {entry : κ}

/-- What the entries of a journal tell, in the order in which they were made. -/
def gathered (tell : κ → List α) : List κ → List α
  | [] => []
  | entry :: past => gathered tell past ++ tell entry

theorem gathered_cons_of_nil (h : tell entry = []) :
    gathered tell (entry :: past) = gathered tell past := by
  rw [gathered, h, List.append_nil]

theorem gathered_append (later past : List κ) :
    gathered tell (later ++ past) = gathered tell past ++ gathered tell later := by
  induction later with
  | nil => exact (List.append_nil _).symm
  | cons entry later ih => rw [List.cons_append, gathered, ih, gathered, List.append_assoc]

/-- Entries that tell nothing add nothing. -/
theorem gathered_append_of_nil (h : ∀ entry ∈ later, tell entry = []) :
    gathered tell (later ++ past) = gathered tell past := by
  induction later with
  | nil => rfl
  | cons entry later ih =>
    obtain ⟨hentry, hlater⟩ := List.forall_mem_cons.mp h
    rw [List.cons_append, gathered_cons_of_nil hentry, ih hlater]

/-- Every entry of a journal is as it may be after those before it. -/
def Each (P : List κ → κ → Prop) : List κ → Prop
  | [] => True
  | entry :: past => P past entry ∧ Each P past

theorem Each.of_append (h : Each P (later ++ past)) : Each P past := by
  induction later with
  | nil => exact h
  | cons entry later ih => exact ih h.2

theorem Each.mono {Q : List κ → κ → Prop} (h : Each P journal)
    (hmono : ∀ past entry, P past entry → Q past entry) : Each Q journal := by
  induction journal with
  | nil => trivial
  | cons entry past ih => exact ⟨hmono past entry h.1, ih h.2⟩

/-- Entries may come that are as they may be after any others. -/
theorem Each.append (h : Each P past) (hlater : ∀ entry ∈ later, ∀ past, P past entry) :
    Each P (later ++ past) := by
  induction later with
  | nil => exact h
  | cons entry later ih =>
    obtain ⟨hentry, hlater⟩ := List.forall_mem_cons.mp hlater
    exact ⟨hentry _, ih hlater⟩

/-- So is the entry at a place. -/
theorem Each.at (h : Each P journal) (hjournal : journal = later ++ entry :: past) :
    P past entry := by
  subst hjournal
  exact h.of_append.1

/-- If so is the entry at every place, then so are all. -/
theorem each_of_forall (h : ∀ later entry past, journal = later ++ entry :: past → P past entry) :
    Each P journal := by
  induction journal with
  | nil => trivial
  | cons entry past ih =>
    refine ⟨h [] entry past rfl, ih fun later other before hpast => ?_⟩
    exact h (entry :: later) other before (congrArg (entry :: ·) hpast)

end Entries

/-! ## How a connection stands -/

/-- How a connection stands. -/
inductive Standing where
  /-- There has been no connection of the handle. -/
  | unseen
  /-- It is open and is read. -/
  | active
  /-- It is to be closed. -/
  | closing
  /-- It was closed. -/
  | gone
deriving DecidableEq

namespace Standing

/-- Whether a connection in the table is to be closed. -/
def closing? : Standing → Option Bool
  | unseen | gone => none
  | active => some false
  | closing => some true

/-- After a request to close the connection. -/
def asked : Standing → Standing
  | active => closing
  | standing => standing

variable {standing : Standing}

theorem closing?_asked : standing.asked.closing? = standing.closing?.map fun _ => true := by
  cases standing <;> rfl

theorem eq_active_of_closing? (h : standing.closing? = some false) : standing = active := by
  cases standing <;> first | rfl | cases h

theorem asked_eq_unseen_iff : standing.asked = unseen ↔ standing = unseen := by
  cases standing <;> simp [asked]

/-- A connection that is to be closed, or was closed, is not read any more. -/
def IsOver (standing : Standing) : Prop :=
  standing = closing ∨ standing = gone

theorem IsOver.ne_active (h : standing.IsOver) : standing ≠ active := by
  rcases h with rfl | rfl <;> decide

theorem IsOver.ne_unseen (h : standing.IsOver) : standing ≠ unseen := by
  rcases h with rfl | rfl <;> decide

theorem isOver_asked (h : standing ≠ unseen) : standing.asked.IsOver := by
  cases standing with
  | unseen => exact absurd rfl h
  | active => exact Or.inl rfl
  | closing => exact Or.inl rfl
  | gone => exact Or.inr rfl

theorem IsOver.asked (h : standing.IsOver) : standing.asked.IsOver := by
  rcases h with rfl | rfl
  · exact Or.inl rfl
  · exact Or.inr rfl

end Standing

/-- What an entry makes of the standing of a connection. -/
def Entry.moves (id : Handle) : Entry → Standing → Standing
  | .raised (.connect k) _, standing => if k = id then .active else standing
  | .called (.disconnect k), standing => if k = id then standing.asked else standing
  | .closed k _ _, standing => if k = id then .gone else standing
  | _, standing => standing

/-- How a connection stands after the entries of a journal. -/
def standing (id : Handle) : List Entry → Standing
  | [] => .unseen
  | entry :: past => entry.moves id (standing id past)

section Standing

variable {id k : Handle} {count : Nat} {past : List Entry}

theorem standing_connect :
    standing id (.raised (.connect k) count :: past) =
      if k = id then .active else standing id past := rfl

theorem standing_disconnect :
    standing id (.called (.disconnect k) :: past) =
      if k = id then (standing id past).asked else standing id past := rfl

/-- A connection that has come is not read any more when it was asked to be closed. -/
theorem isOver_of_asked (h : standing id past ≠ .unseen) :
    (standing id (.called (.disconnect id) :: past)).IsOver := by
  rw [standing_disconnect, if_pos rfl]
  exact Standing.isOver_asked h

theorem standing_closed {cause : Closing} {unsent : List UInt8} :
    standing id (.closed k cause unsent :: past) =
      if k = id then .gone else standing id past := rfl

/-- A connection that has not come had not come before. -/
theorem unseen_of_cons {entry : Entry} (h : standing id (entry :: past) = .unseen) :
    standing id past = .unseen := by
  cases entry with
  | raised event count =>
    cases event with
    | connect k =>
      rw [standing_connect] at h
      split at h
      · cases h
      · exact h
    | line => exact h
    | drop => exact h
  | called call =>
    cases call with
    | send => exact h
    | broadcast => exact h
    | disconnect k =>
      rw [standing_disconnect] at h
      split at h
      · exact Standing.asked_eq_unseen_iff.mp h
      · exact h
  | received => exact h
  | wrote => exact h
  | writeFailed => exact h
  | closed k cause unsent =>
    rw [standing_closed] at h
    split at h
    · cases h
    · exact h

theorem unseen_of_append {later : List Entry} (h : standing id (later ++ past) = .unseen) :
    standing id past = .unseen := by
  induction later with
  | nil => exact h
  | cons entry later ih => exact ih (unseen_of_cons h)

end Standing

/-- The texts that were queued for a connection: those of the calls that concern it
which were made while it was open and not to be closed. -/
def queued (id : Handle) : List Entry → List String
  | [] => []
  | .called call :: past =>
    queued id past ++ if standing id past = .active then Outgoing.heardBy id [call] else []
  | _ :: past => queued id past

/-! ## Which entries may follow -/

/-- An entry may be the next one of a journal. -/
def Entry.Follows (past : List Entry) : Entry → Prop
  | .raised (.connect id) _ => standing id past = .unseen
  | .raised (.line id _) _ => standing id past = .active
  | .raised (.drop id) _ =>
    ∃ cause unsent, cause ≠ .deactivated ∧ past.head? = some (.closed id cause unsent)
  | .called _ => True
  | .received id _ => standing id past = .active
  | .wrote id _ | .writeFailed id | .closed id _ _ => (standing id past).closing?.isSome = true

/-- Every entry of a journal may follow those before it. -/
def Lawful : List Entry → Prop
  | [] => True
  | entry :: past => entry.Follows past ∧ Lawful past

section Lawful

variable {later past : List Entry} {id : Handle}

theorem Lawful.of_append (h : Lawful (later ++ past)) : Lawful past := by
  induction later with
  | nil => exact h
  | cons entry later ih => exact ih h.2

/-- Entries that may not be about a connection that has not come tell nothing of it until
it has come. -/
theorem gathered_of_unseen {α : Type} {tell : Entry → List α} {journal : List Entry}
    (htell : ∀ past entry, standing id past = .unseen → entry.Follows past → tell entry = [])
    (h : Lawful journal) (hunseen : standing id journal = .unseen) :
    gathered tell journal = [] := by
  induction journal with
  | nil => rfl
  | cons entry past ih =>
    have hbefore := unseen_of_cons hunseen
    rw [gathered_cons_of_nil (htell past entry hbefore h.1), ih h.2 hbefore]

/-- Once a connection is to be closed, or was closed, it is never read again. -/
theorem isOver_append (h : Lawful (later ++ past)) (hover : (standing id past).IsOver) :
    (standing id (later ++ past)).IsOver := by
  induction later with
  | nil => exact hover
  | cons entry later ih =>
    obtain ⟨hfollows, hlater⟩ := h
    have hbefore := ih hlater
    rw [List.cons_append]
    cases entry with
    | raised event count =>
      cases event with
      | connect k =>
        -- a connection that comes has a handle that was never seen
        have hk : k ≠ id := by
          rintro rfl
          exact hbefore.ne_unseen hfollows
        rw [standing_connect, if_neg hk]
        exact hbefore
      | line => exact hbefore
      | drop => exact hbefore
    | called call =>
      cases call with
      | send => exact hbefore
      | broadcast => exact hbefore
      | disconnect k =>
        rw [standing_disconnect]
        split
        · exact hbefore.asked
        · exact hbefore
    | received => exact hbefore
    | wrote => exact hbefore
    | writeFailed => exact hbefore
    | closed k cause unsent =>
      rw [standing_closed]
      split
      · exact Or.inr rfl
      · exact hbefore

/-- A connection that is read has been read since it came. -/
theorem active_or_unseen_of_append (h : Lawful (later ++ past))
    (hactive : standing id (later ++ past) = .active) :
    standing id past = .active ∨ standing id past = .unseen := by
  cases hbefore : standing id past with
  | active => exact Or.inl rfl
  | unseen => exact Or.inr rfl
  | closing => exact absurd hactive (isOver_append h (Or.inl hbefore)).ne_active
  | gone => exact absurd hactive (isOver_append h (Or.inr hbefore)).ne_active

/-- No line of it is handed on any more. -/
theorem line_not_mem_of_isOver (h : Lawful (later ++ past)) (hover : (standing id past).IsOver)
    (text : String) (count : Nat) : .raised (.line id text) count ∉ later := by
  intro hmem
  obtain ⟨after, before, rfl⟩ := List.append_of_mem hmem
  rw [List.append_assoc, List.cons_append] at h
  exact (isOver_append h.of_append.2 hover).ne_active h.of_append.1

/-- Nothing more is queued for it. -/
theorem queued_append_of_isOver (h : Lawful (later ++ past)) (hover : (standing id past).IsOver) :
    queued id (later ++ past) = queued id past := by
  induction later with
  | nil => rfl
  | cons entry later ih =>
    have hbefore := isOver_append h.2 hover
    cases entry with
    | called call =>
      rw [List.cons_append, queued, if_neg hbefore.ne_active, List.append_nil, ih h.2]
    | raised => exact ih h.2
    | received => exact ih h.2
    | wrote => exact ih h.2
    | writeFailed => exact ih h.2
    | closed => exact ih h.2

end Lawful

/-! ## What the handler makes of a journal -/

namespace Handler

variable {σ : Type}

/-- The handler's state after the events of a journal. -/
def after (handler : Handler σ) (start : σ) : List Entry → σ
  | [] => start
  | .raised event count :: past => (handler.react (handler.after start past) count event).1
  | _ :: past => handler.after start past

/-- The entries of the calls with which the handler answers an event after a journal. -/
def answers (handler : Handler σ) (start : σ) (past : List Entry) (event : Event)
    (count : Nat) : List Entry :=
  ((handler.react (handler.after start past) count event).2.map Entry.called).reverse

/-- Every event of a journal is followed by the calls of the handler. -/
def Answered (handler : Handler σ) (start : σ) (journal : List Entry) : Prop :=
  ∀ later event count past, journal = later ++ .raised event count :: past →
    handler.answers start past event count <:+ later

variable {handler : Handler σ} {start : σ} {past : List Entry} {event : Event} {count : Nat}

theorem raised_not_mem_answers (event' : Event) (count' : Nat) :
    .raised event' count' ∉ handler.answers start past event count := by
  simp [answers]

theorem answered_nil : handler.Answered start [] := by
  intro later event count past h
  cases List.append_eq_nil_iff.mp h.symm |>.2

/-- Other entries may come after what was answered. -/
theorem Answered.append {entries : List Entry} (h : handler.Answered start past)
    (hother : ∀ event count, .raised event count ∉ entries) :
    handler.Answered start (entries ++ past) := by
  intro later event count earlier he
  rcases List.append_eq_append_iff.mp he with ⟨between, rfl, hpast⟩ | ⟨between, rfl, hpast⟩
  · exact (h between event count earlier hpast).trans (List.suffix_append entries between)
  · cases between with
    | nil => exact (h [] event count earlier hpast.symm).trans (List.nil_suffix)
    | cons first between =>
      cases hpast
      exact absurd (List.mem_append_right later List.mem_cons_self) (hother event count)

/-- So may a single one. -/
theorem Answered.cons (h : handler.Answered start past) (entry : Entry)
    (hother : ∀ event count, entry ≠ .raised event count) :
    handler.Answered start (entry :: past) := by
  have hentries : ∀ event count, .raised event count ∉ [entry] := fun event count hmem =>
    hother event count (List.mem_singleton.mp hmem).symm
  exact h.append hentries

/-- So may an event with its answers. -/
theorem Answered.raise (h : handler.Answered start past) (event : Event) (count : Nat) :
    handler.Answered start
      (handler.answers start past event count ++ .raised event count :: past) := by
  intro later event' count' earlier he
  -- the event in question is the new one or an older one, for the answers hold no event
  rcases List.append_eq_append_iff.mp he with ⟨between, rfl, hpast⟩ | ⟨between, hlater, hpast⟩
  · cases between with
    | nil =>
      cases hpast
      exact ⟨[], by simp⟩
    | cons first between =>
      cases hpast
      refine (h between event' count' earlier rfl).trans ?_
      exact (List.suffix_cons _ between).trans (List.suffix_append _ _)
  · cases between with
    | nil =>
      cases hpast
      rw [List.append_nil] at hlater
      exact hlater ▸ List.suffix_rfl
    | cons first between =>
      cases hpast
      have hmem : .raised event' count' ∈ handler.answers start past event count := by
        rw [hlater]
        exact List.mem_append_right later List.mem_cons_self
      exact absurd hmem (raised_not_mem_answers event' count')

end Handler

end RelayChat
