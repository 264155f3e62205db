import RelayChat.Loopback
import RelayChat.Proofs.ServerRuns

/-!
# The protocol of events

The handler hears of every connection in the same order: that it has come, then lines,
then at most once that it is gone, and nothing after that. `Standing.Shows` says so for a
lawful journal. Handles are given out in increasing order, a connection that leaves the
table is told of at once unless the server is deactivated, and the number of connections
told with an event is that of those that came less those that left: these are kept by
every elementary action (`Orderly`). `event_protocol` puts it together for whole runs.
-/

namespace RelayChat

/-! ## What is read off the journal -/

/-- The connection that comes with an entry. -/
def Entry.coming : Entry → List Handle
  | .raised (.connect id) _ => [id]
  | _ => []

/-- The connection that leaves the table with an entry. -/
def Entry.going : Entry → List Handle
  | .closed id _ _ => [id]
  | _ => []

/-- The event of a connection that an entry raises. -/
def Entry.eventOf (id : Handle) : Entry → List Event
  | .raised event _ => if event.handle = id then [event] else []
  | _ => []

/-- The connections that have come, in order. -/
def comings : List Entry → List Handle := gathered Entry.coming

/-- The connections that have left the table, in order. -/
def goings : List Entry → List Handle := gathered Entry.going

/-- The events of a connection, in order. -/
def eventsOf (id : Handle) : List Entry → List Event := gathered (Entry.eventOf id)

/-- The connection of whose closing the handler is to be told. -/
def Entry.owes : Entry → Option Handle
  | .closed id cause _ => if cause = .deactivated then none else some id
  | _ => none

/-- The connection of whose closing the handler is to be told next. -/
def owed (journal : List Entry) : Option Handle :=
  journal.head?.bind Entry.owes

/-- An entry tells the handler of a closing if that is to be told. -/
def Entry.Heeds (past : List Entry) (entry : Entry) : Prop :=
  ∀ id, owed past = some id → ∃ count, entry = .raised (.drop id) count

/-- The number told with an event is that of the connections that have come, the one of
the event included, less those that have left. -/
def Entry.Counts (past : List Entry) : Entry → Prop
  | .raised event count =>
    count + (goings past).length = (comings (.raised event count :: past)).length
  | _ => True

/-! ## The events of one connection -/

/-- The events that a connection shows which stands in some way. -/
def Standing.Shows (id : Handle) : Standing → List Event → Prop
  | .unseen, events => events = []
  | .active, events | .closing, events =>
    ∃ texts : List String, events = .connect id :: texts.map (.line id)
  | .gone, events => ∃ (texts : List String) (ending : List Event),
      (ending = [] ∨ ending = [.drop id]) ∧ events = .connect id :: texts.map (.line id) ++ ending

section Shows

variable {id k : Handle} {how : Standing} {events : List Event} {event : Event} {count : Nat}
  {past : List Entry}

/-- A connection in the table has come and has not gone. -/
theorem Standing.shows_of_closing? (h : how.closing?.isSome = true) (hshows : how.Shows id events) :
    ∃ texts : List String, events = .connect id :: texts.map (.line id) := by
  cases how with
  | unseen => cases h
  | active => exact hshows
  | closing => exact hshows
  | gone => cases h

theorem Standing.shows_asked (hshows : how.Shows id events) : how.asked.Shows id events := by
  cases how <;> exact hshows

theorem eventsOf_raised (h : event.handle = id) :
    eventsOf id (.raised event count :: past) = eventsOf id past ++ [event] := by
  rw [eventsOf, gathered, Entry.eventOf, if_pos h]

theorem eventsOf_raised_of_ne (h : event.handle ≠ id) :
    eventsOf id (.raised event count :: past) = eventsOf id past := by
  refine gathered_cons_of_nil ?_
  rw [Entry.eventOf, if_neg h]

/-- Entries that raise no event show none. -/
theorem eventsOf_of_not_raised {entry : Entry} (h : entry.eventOf id = []) :
    eventsOf id (entry :: past) = eventsOf id past := gathered_cons_of_nil h

/-- The events of a connection begin with its coming and end with its going. -/
theorem shows_standing (id : Handle) (journal : List Entry) (h : Lawful journal) :
    (standing id journal).Shows id (eventsOf id journal) := by
  match journal, h with
  | [], _ => rfl
  | entry :: past, ⟨hfollows, hpast⟩ =>
    have hbefore := shows_standing id past hpast
    cases entry with
    | raised event count =>
      by_cases hid : event.handle = id
      · subst hid
        rw [eventsOf_raised rfl]
        cases event with
        | connect k =>
          rw [Event.handle, show standing k past = .unseen from hfollows] at hbefore
          have hnothing : eventsOf k past = [] := hbefore
          rw [Event.handle, hnothing, standing_connect, if_pos rfl]
          exact ⟨[], rfl⟩
        | line k text =>
          have hactive : standing k past = .active := hfollows
          rw [Event.handle, hactive] at hbefore
          obtain ⟨texts, htexts⟩ := hbefore
          change (standing k past).Shows k _
          rw [hactive, Event.handle, htexts]
          exact ⟨texts ++ [text], by simp⟩
        | drop k =>
          -- the entry before took the connection out of the table and told no event, so the
          -- events until then are those of a connection in the table
          obtain ⟨cause, unsent, -, hclosed⟩ := hfollows
          obtain ⟨before, rfl⟩ := List.head?_eq_some_iff.mp hclosed
          obtain ⟨texts, htexts⟩ :=
            Standing.shows_of_closing? hpast.1 (shows_standing k before hpast.2)
          change (standing k (.closed k cause unsent :: before)).Shows k _
          rw [standing_closed, if_pos rfl, Event.handle, eventsOf_of_not_raised rfl, htexts]
          exact ⟨texts, [.drop k], Or.inr rfl, rfl⟩
      · rw [eventsOf_raised_of_ne hid]
        cases event with
        | connect k =>
          rw [standing_connect, if_neg (show k ≠ id from hid)]
          exact hbefore
        | line => exact hbefore
        | drop => exact hbefore
    | called call =>
      rw [eventsOf_of_not_raised rfl]
      cases call with
      | send => exact hbefore
      | broadcast => exact hbefore
      | disconnect k =>
        rw [standing_disconnect]
        split
        · exact Standing.shows_asked hbefore
        · exact hbefore
    | received =>
      rw [eventsOf_of_not_raised rfl]
      exact hbefore
    | wrote =>
      rw [eventsOf_of_not_raised rfl]
      exact hbefore
    | writeFailed =>
      rw [eventsOf_of_not_raised rfl]
      exact hbefore
    | closed k cause unsent =>
      rw [eventsOf_of_not_raised rfl, standing_closed]
      split
      · rename_i hk
        subst hk
        obtain ⟨texts, htexts⟩ := Standing.shows_of_closing? hfollows hbefore
        exact ⟨texts, [], Or.inl rfl, by rw [htexts, List.append_nil]⟩
      · exact hbefore
termination_by journal.length

/-- Whoever has come was seen, and whoever has left is gone. -/
theorem mem_comings_goings {journal : List Entry} (h : Lawful journal) (id : Handle) :
    (id ∈ comings journal ↔ standing id journal ≠ .unseen) ∧
      (id ∈ goings journal ↔ standing id journal = .gone) := by
  induction journal with
  | nil => exact ⟨by simp [comings, gathered, standing], by simp [goings, gathered, standing]⟩
  | cons entry past ih =>
    obtain ⟨hfollows, hpast⟩ := h
    obtain ⟨hcame, hwent⟩ := ih hpast
    rw [comings, gathered, List.mem_append, goings, gathered, List.mem_append]
    change (id ∈ comings past ∨ _ ↔ _) ∧ (id ∈ goings past ∨ _ ↔ _)
    rw [hcame, hwent]
    cases entry with
    | raised event count =>
      cases event with
      | connect k =>
        rw [standing_connect]
        by_cases hk : k = id
        · subst hk
          have hunseen : standing k past = .unseen := hfollows
          simp [Entry.coming, Entry.going, hunseen]
        · simp [Entry.coming, Entry.going, hk, Ne.symm hk]
      | line => simp [Entry.coming, Entry.going, standing, Entry.moves]
      | drop => simp [Entry.coming, Entry.going, standing, Entry.moves]
    | called call =>
      cases call with
      | send => simp [Entry.coming, Entry.going, standing, Entry.moves]
      | broadcast => simp [Entry.coming, Entry.going, standing, Entry.moves]
      | disconnect k =>
        rw [standing_disconnect]
        cases hstanding : standing id past <;>
          by_cases hk : k = id <;> simp [Entry.coming, Entry.going, hk, Standing.asked]
    | received => simp [Entry.coming, Entry.going, standing, Entry.moves]
    | wrote => simp [Entry.coming, Entry.going, standing, Entry.moves]
    | writeFailed => simp [Entry.coming, Entry.going, standing, Entry.moves]
    | closed k cause unsent =>
      rw [standing_closed]
      by_cases hk : k = id
      · subst hk
        have hseen : standing k past ≠ .unseen := by
          intro hunseen
          rw [Entry.Follows, hunseen] at hfollows
          cases hfollows
        simp [Entry.coming, Entry.going, hseen]
      · simp [Entry.coming, Entry.going, hk, Ne.symm hk]

end Shows

/-! ## Closings and numbers -/

section Closings

variable {later past journal : List Entry} {entry : Entry}

/-- Any entry may come where no closing is to be told of. -/
theorem heeds_of_owed (howed : owed past = none) : entry.Heeds past := by
  intro id hid
  rw [howed] at hid
  cases hid

/-- Whatever is closed but by deactivation is told of in the next entry. -/
theorem told_of_closed {id : Handle} {cause : Closing} {unsent : List UInt8}
    (heach : Each Entry.Heeds journal) (howed : owed journal = none)
    (hjournal : journal = later ++ .closed id cause unsent :: past)
    (hcause : cause ≠ .deactivated) :
    ∃ rest count, later = rest ++ [.raised (.drop id) count] := by
  have howes : owed (.closed id cause unsent :: past) = some id := if_neg hcause
  rcases List.eq_nil_or_concat later with rfl | ⟨rest, next, rfl⟩
  · rw [hjournal, List.nil_append, howes] at howed
    cases howed
  · rw [List.concat_eq_append, List.append_assoc] at hjournal
    obtain ⟨count, rfl⟩ := heach.at hjournal id howes
    exact ⟨rest, count, List.concat_eq_append⟩

theorem comings_of_nil (h : entry.coming = []) : comings (entry :: past) = comings past :=
  gathered_cons_of_nil h

theorem goings_of_nil (h : entry.going = []) : goings (entry :: past) = goings past :=
  gathered_cons_of_nil h

end Closings

namespace Multiplexer

open Relation

variable {σ ε : Type} {net : Host ε} {handler : Handler σ} {start : σ} {m m' : Multiplexer σ ε}
  {id : Handle} {c : Connection}

/-- Handles increase, numbers are right, and no closing is still to be told of. -/
structure Orderly (m : Multiplexer σ ε) : Prop where
  /-- Connections come with greater and greater handles. -/
  increasing : (comings m.journal).Pairwise (· < ·)
  /-- These are greater than the handle of the listener, and others are still to come. -/
  bounded : ∀ id ∈ comings m.journal, listenerHandle < id ∧ id < m.nextHandle
  /-- So is the next one. -/
  next : listenerHandle < m.nextHandle
  /-- Those are in the table that have come and have not left. -/
  counted : m.board.count + (goings m.journal).length = (comings m.journal).length
  /-- Every event tells this number. -/
  counts : Each Entry.Counts m.journal
  /-- No closing is still to be told of. -/
  settled : owed m.journal = none
  /-- Every closing was told of at once. -/
  heeds : Each Entry.Heeds m.journal

namespace Orderly

theorem create (listen : ListenSettings) (start : σ) (host : ε) :
    Orderly (Multiplexer.create listen start host) where
  increasing := List.Pairwise.nil
  bounded _ hid := absurd hid List.not_mem_nil
  next := Nat.lt_succ_self listenerHandle
  counted := by
    have hempty : Switchboard.empty.count = 0 := Switchboard.count_empty
    exact hempty
  counts := trivial
  settled := rfl
  heeds := trivial

/-- Other parts of the server may change. -/
theorem congr (h : Orderly m) (hjournal : m'.journal = m.journal)
    (hcount : m'.board.count = m.board.count) (hnext : m.nextHandle ≤ m'.nextHandle) :
    Orderly m' where
  increasing := hjournal ▸ h.increasing
  bounded id hid := by
    obtain ⟨hgreater, hless⟩ := h.bounded id (hjournal ▸ hid)
    exact ⟨hgreater, Nat.lt_of_lt_of_le hless hnext⟩
  next := Nat.lt_of_lt_of_le h.next hnext
  counted := by rw [hjournal, hcount, h.counted]
  counts := hjournal ▸ h.counts
  settled := hjournal ▸ h.settled
  heeds := hjournal ▸ h.heeds

/-- Something is noted by which no connection comes or leaves. -/
theorem note {entry : Entry} (h : Orderly m) (hcoming : entry.coming = [])
    (hgoing : entry.going = []) (howes : entry.owes = none) (hcounts : entry.Counts m.journal) :
    Orderly (m.record entry) where
  increasing := by
    change (comings (entry :: m.journal)).Pairwise _
    rw [comings_of_nil hcoming]
    exact h.increasing
  bounded id hid := by
    change id ∈ comings (entry :: m.journal) at hid
    rw [comings_of_nil hcoming] at hid
    exact h.bounded id hid
  next := h.next
  counted := by
    change _ + (goings (entry :: m.journal)).length = (comings (entry :: m.journal)).length
    rw [comings_of_nil hcoming, goings_of_nil hgoing]
    exact h.counted
  counts := ⟨hcounts, h.counts⟩
  settled := howes
  heeds := ⟨heeds_of_owed h.settled, h.heeds⟩

theorem call (h : Orderly m) (call : Outgoing String) : Orderly (m.call call) := by
  have hboard : Orderly { m with board := m.board.carryOut call } :=
    h.congr rfl (Switchboard.count_carryOut call) (Nat.le_refl _)
  exact hboard.note rfl rfl rfl trivial

/-- An event is raised after which everything is in order. -/
theorem raise {event : Event}
    (hincreasing : (comings (.raised event m.board.count :: m.journal)).Pairwise (· < ·))
    (hbounded : ∀ id ∈ comings (.raised event m.board.count :: m.journal),
      listenerHandle < id ∧ id < m.nextHandle)
    (hnext : listenerHandle < m.nextHandle)
    (hcounted : (Entry.raised event m.board.count).Counts m.journal)
    (hcounts : Each Entry.Counts m.journal)
    (hheeds : (Entry.raised event m.board.count).Heeds m.journal)
    (heach : Each Entry.Heeds m.journal) : Orderly (Multiplexer.raise handler m event) := by
  refine raise_keeps
    ⟨hincreasing, hbounded, hnext, ?_, ⟨hcounted, hcounts⟩, rfl, ⟨hheeds, heach⟩⟩ ?_
  · change _ + (goings (.raised event m.board.count :: m.journal)).length = _
    rw [goings_of_nil rfl]
    exact hcounted
  · exact fun c hm => hm.call c

/-- A connection comes under a handle that is not in the table. -/
theorem letIn (h : Orderly m) (hid : m.board.get? m.nextHandle = none) :
    Orderly (Multiplexer.raise handler
      { m with nextHandle := m.nextHandle + 1,
               board := m.board.put m.nextHandle Connection.fresh }
      (.connect m.nextHandle)) := by
  have hcomings : ∀ count, comings (.raised (.connect m.nextHandle) count :: m.journal) =
      comings m.journal ++ [m.nextHandle] := fun _ => rfl
  apply raise
  · rw [hcomings, List.pairwise_append]
    refine ⟨h.increasing, List.pairwise_singleton _ _, fun id hmem next hnext => ?_⟩
    rw [List.mem_singleton.mp hnext]
    exact (h.bounded id hmem).2
  · intro id hmem
    rw [hcomings, List.mem_append, List.mem_singleton] at hmem
    rcases hmem with hmem | rfl
    · exact (h.bounded id hmem).imp_right Nat.lt_succ_of_lt
    · exact ⟨h.next, Nat.lt_succ_self _⟩
  · exact Nat.lt_succ_of_lt h.next
  · rw [Entry.Counts, hcomings, List.length_append, ← h.counted]
    change (m.board.put m.nextHandle Connection.fresh).count + (goings m.journal).length = _
    rw [Switchboard.count_put_of_none hid, List.length_singleton]
    omega
  · exact h.counts
  · exact heeds_of_owed h.settled
  · exact h.heeds

/-- A line is handed on. -/
theorem line (h : Orderly m) (text : String) :
    Orderly (Multiplexer.raise handler m (.line id text)) := by
  have hcomings : comings (.raised (.line id text) m.board.count :: m.journal) =
      comings m.journal := comings_of_nil rfl
  apply raise
  · rw [hcomings]
    exact h.increasing
  · rw [hcomings]
    exact h.bounded
  · exact h.next
  · rw [Entry.Counts, hcomings]
    exact h.counted
  · exact h.counts
  · exact heeds_of_owed h.settled
  · exact h.heeds

/-- A connection is closed, and the handler is told of it at once. -/
theorem close {cause : Closing} (h : Orderly m) (hc : m.board.get? id = some c)
    (hcause : cause ≠ .deactivated) : Orderly (Multiplexer.close handler m id cause) := by
  have howes : (Entry.closed id cause c.outbound).owes = some id := if_neg hcause
  have hcomings : ∀ count, comings (.raised (.drop id) count :: .closed id cause c.outbound ::
      m.journal) = comings m.journal := fun _ => by rw [comings_of_nil rfl, comings_of_nil rfl]
  rw [close_of_get? hc]
  apply raise
  · exact (hcomings _).symm ▸ h.increasing
  · exact fun k hk => h.bounded k (hcomings _ ▸ hk)
  · exact h.next
  · change _ + (goings m.journal ++ [id]).length = (comings (_ :: _ :: _)).length
    rw [hcomings, ← h.counted, ← Switchboard.count_remove hc, List.length_append,
      List.length_singleton]
    change (m.board.remove id).count + _ = _
    omega
  · exact ⟨trivial, h.counts⟩
  · intro k howed
    change (Entry.closed id cause c.outbound).owes = some k at howed
    rw [howes] at howed
    cases howed
    exact ⟨_, rfl⟩
  · exact ⟨heeds_of_owed h.settled, h.heeds⟩

/-- A connection leaves the table, and the handler is not to be told. -/
theorem leave (h : Orderly m) (hc : m.board.get? id = some c) :
    Orderly ({ m with board := m.board.remove id }.record
      (.closed id .deactivated c.outbound)) := by
  have hcomings : comings (.closed id .deactivated c.outbound :: m.journal) = comings m.journal :=
    comings_of_nil rfl
  refine ⟨?_, fun k hk => h.bounded k (hcomings ▸ hk), h.next, ?_, ⟨trivial, h.counts⟩, rfl,
    heeds_of_owed h.settled, h.heeds⟩
  · exact hcomings.symm ▸ h.increasing
  · change _ + (goings m.journal ++ [id]).length = (comings (_ :: _)).length
    rw [hcomings, ← h.counted, ← Switchboard.count_remove hc, List.length_append,
      List.length_singleton]
    change (m.board.remove id).count + _ = _
    omega

/-- Everything is closed at once. -/
theorem deactivate (h : Orderly m) : Orderly m.deactivate := by
  refine deactivate_keeps (fun hc hm => hm.leave hc) (fun hempty hm => ?_) h
  refine hm.congr rfl ?_ (Nat.le_refl _)
  rw [Switchboard.count_of_none hempty]
  exact Switchboard.count_empty

end Orderly

/-- Every action leaves everything in order. -/
theorem Action.orderly (h : Action net handler m m') (hm : Consistent handler start m)
    (horderly : Orderly m) : Orderly m' := by
  cases h with
  | asked => exact horderly.congr rfl rfl (Nat.le_refl _)
  | read => exact horderly.congr rfl rfl (Nat.le_refl _)
  | listened => exact horderly.congr rfl rfl (Nat.le_refl _)
  | deactivated => exact horderly.deactivate
  | verbosity => exact horderly.congr rfl rfl (Nat.le_refl _)
  | call call => exact horderly.call call
  | admitted =>
    refine horderly.letIn ?_
    exact Option.eq_none_iff_forall_not_mem.mpr fun _ hc => Nat.lt_irrefl _ (hm.get?_lt hc)
  | skipped => exact horderly.congr rfl rfl (Nat.le_succ _)
  | @received id c bytes hc =>
    have hput : Orderly { m with board := m.board.put id (c.receive bytes).1 } :=
      horderly.congr rfl (Switchboard.count_put_of_get? hc) (Nat.le_refl _)
    exact hput.note rfl rfl rfl trivial
  | line text => exact horderly.line text
  | @wrote id c hc =>
    have hput : Orderly
        { m with host := (net.write m.host id c.outbound).2,
                 board := m.board.put id { c with outbound := (m.flushed net id c).left } } :=
      horderly.congr rfl (Switchboard.count_put_of_get? hc) (Nat.le_refl _)
    exact written_keeps (hput.note rfl rfl rfl trivial) fun hwrote =>
      hwrote.note rfl rfl rfl trivial
  | armed hc => exact horderly.congr rfl (Switchboard.count_put_of_get? hc) (Nat.le_refl _)
  | marked => exact horderly.congr rfl Switchboard.count_mark (Nat.le_refl _)
  | taken => exact horderly.congr rfl rfl (Nat.le_refl _)
  | closed hc hmay =>
    refine horderly.close hc ?_
    rintro rfl
    exact hmay

theorem run_orderly (net : Host ε) (handler : Handler σ) (listen : ListenSettings) (start : σ)
    (host : ε) (demands : List (Demand ε)) :
    Orderly (run net handler (create listen start host) demands) := by
  refine (run_keeps net handler (P := fun m => Consistent handler start m ∧ Orderly m) ?_ ?_ ?_).2
  · rintro m m' haction ⟨hm, horderly⟩
    exact ⟨haction.consistent hm, haction.orderly hm horderly⟩
  · rintro m change - ⟨hm, horderly⟩
    exact ⟨hm.congr rfl rfl (Nat.le_refl _) fun _ => rfl, horderly.congr rfl rfl (Nat.le_refl _)⟩
  · exact ⟨Consistent.create listen start host, Orderly.create listen start host⟩

/-- The protocol of events in every run of the server, for every handler and every host. The
handler has reacted to just these events. A connection comes under a greater handle than all
before it, sends lines and goes at most once, which is told exactly when it has just left the
table otherwise than by deactivation. Every event is told with the number of connections. -/
theorem event_protocol (net : Host ε) (handler : Handler σ) (listen : ListenSettings) (start : σ)
    (host : ε) (demands : List (Demand ε)) :
    let m := run net handler (create listen start host) demands
    (m.state = handler.after start m.journal ∧ handler.Answered start m.journal) ∧
    (∀ id, eventsOf id m.journal = [] ∨
      ∃ (texts : List String) (ending : List Event), (ending = [] ∨ ending = [.drop id]) ∧
        eventsOf id m.journal = .connect id :: texts.map (.line id) ++ ending) ∧
    ((comings m.journal).Pairwise (· < ·) ∧
      ∀ id ∈ comings m.journal, listenerHandle < id ∧ id < m.nextHandle) ∧
    (∀ later id cause unsent past, m.journal = later ++ .closed id cause unsent :: past →
      cause ≠ .deactivated → ∃ rest count, later = rest ++ [.raised (.drop id) count]) ∧
    (∀ later id count past, m.journal = later ++ .raised (.drop id) count :: past →
      ∃ cause unsent before, cause ≠ .deactivated ∧ past = .closed id cause unsent :: before) ∧
    (∀ later event count past, m.journal = later ++ .raised event count :: past →
      count + (goings past).length = (comings (.raised event count :: past)).length) ∧
    (∀ id, (m.board.get? id).isSome = true ↔ id ∈ comings m.journal ∧ id ∉ goings m.journal) := by
  intro m
  have hm : Consistent handler start m := run_consistent net handler listen start host demands
  have horderly : Orderly m := run_orderly net handler listen start host demands
  refine ⟨⟨hm.state, run_answered net handler listen start host demands⟩, fun id => ?_,
    ⟨horderly.increasing, horderly.bounded⟩, ?_, ?_, ?_, fun id => ?_⟩
  · have hshows := shows_standing id m.journal hm.lawful
    cases hstanding : standing id m.journal with
    | unseen =>
      rw [hstanding] at hshows
      exact Or.inl hshows
    | active =>
      rw [hstanding] at hshows
      obtain ⟨texts, htexts⟩ := hshows
      exact Or.inr ⟨texts, [], Or.inl rfl, by rw [htexts, List.append_nil]⟩
    | closing =>
      rw [hstanding] at hshows
      obtain ⟨texts, htexts⟩ := hshows
      exact Or.inr ⟨texts, [], Or.inl rfl, by rw [htexts, List.append_nil]⟩
    | gone =>
      rw [hstanding] at hshows
      exact Or.inr hshows
  · intro later id cause unsent past hjournal hcause
    exact told_of_closed horderly.heeds horderly.settled hjournal hcause
  · intro later id count past hjournal
    have hlawful := hm.lawful
    rw [hjournal] at hlawful
    obtain ⟨cause, unsent, hcause, hclosed⟩ := hlawful.of_append.1
    obtain ⟨before, rfl⟩ := List.head?_eq_some_iff.mp hclosed
    exact ⟨cause, unsent, before, hcause, rfl⟩
  · intro later event count past hjournal
    exact horderly.counts.at hjournal
  · obtain ⟨hcame, hwent⟩ := mem_comings_goings hm.lawful id
    have htable : (m.board.get? id).isSome = (standing id m.journal).closing?.isSome := by
      rw [← hm.closing?, Switchboard.closing?, Option.isSome_map]
    rw [hcame, hwent, htable]
    cases standing id m.journal <;> decide

/-- A handler that counts the events and closes a connection after its first line. -/
def tally : Handler Nat where
  react events _
    | .line id _ => (events + 1, [.disconnect id])
    | _ => (events + 1, [])

/-- Of two clients one says something. The server closes and opens again, and another comes. -/
def reopened : List (Demand Loopback) :=
  [.activate, .meanwhile fun s => (s.connect 1).connect 2, .wait,
    .meanwhile (·.write 1 (LossyUtf8.encode "hello\r\n") false), .wait, .deactivate, .activate,
    .meanwhile (·.connect 3), .wait]

/-- The one who spoke is told gone, the one whom the server left is not, and the third one has a
new handle. -/
theorem event_protocol_reopened :
    let m := run Loopback.host tally (create ⟨6667, ""⟩ 0 (Loopback.idle true false)) reopened
    m.state = 5 ∧ comings m.journal = [1, 2, 3] ∧ goings m.journal = [1, 2] ∧
      eventsOf 1 m.journal = [.connect 1, .line 1 "hello", .drop 1] ∧
      eventsOf 2 m.journal = [.connect 2] ∧ (m.board.get? 2).isSome = false ∧
      (m.board.get? 3).isSome = true := by
  intro m
  obtain ⟨⟨hstate, -⟩, -, -, -, -, -, htable⟩ :=
    event_protocol Loopback.host tally ⟨6667, ""⟩ 0 (Loopback.idle true false) reopened
  have hcame : comings m.journal = [1, 2, 3] := by decide +kernel
  have hwent : goings m.journal = [1, 2] := by decide +kernel
  refine ⟨hstate.trans ?_, hcame, hwent, ?_, ?_, ?_, ?_⟩
  · decide +kernel
  · decide +kernel
  · decide +kernel
  · rw [← Bool.not_eq_true, htable 2, hcame, hwent]
    decide
  · rw [htable 3, hcame, hwent]
    decide

end Multiplexer

end RelayChat
