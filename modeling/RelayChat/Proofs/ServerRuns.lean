import RelayChat.Proofs.Journal
import RelayChat.Proofs.Stages

/-!
# Servers and their journals

A server is as its journal tells: the handler is in the state that its events led to,
and a connection is in the table, to be closed or not, as it stands in the journal.
`Consistent` says so of a server whose journal is lawful. Every elementary action keeps
this, so it holds of every run, for every handler and every host (`run_consistent`),
and in a run every event is answered (`run_answered`).
-/

namespace RelayChat

open Relation

namespace Switchboard

/-- Whether a connection in the table is to be closed. -/
def closing? (board : Switchboard) (id : Handle) : Option Bool :=
  (board.get? id).map (·.closing)

variable {board : Switchboard} {id k : Handle} {c c' : Connection}

@[simp] theorem closing?_empty : empty.closing? k = none := by
  rw [closing?, get?_empty, Option.map_none]

@[simp] theorem closing?_mark : (board.mark id).closing? k = board.closing? k := by
  rw [closing?, get?_mark, closing?]

theorem closing?_of_get? (hc : board.get? id = some c) : board.closing? id = some c.closing := by
  rw [closing?, hc, Option.map_some]

theorem accepts_iff_closing? : board.accepts id = true ↔ board.closing? id = some false := by
  rw [accepts_iff, closing?, Option.map_eq_some_iff]

theorem closing?_put :
    (board.put id c).closing? k = if id = k then some c.closing else board.closing? k := by
  rw [closing?, get?_put]
  split <;> rfl

/-- A connection may change otherwise. -/
theorem closing?_put_of_get? (hc : board.get? id = some c) (hsame : c'.closing = c.closing) :
    (board.put id c').closing? k = board.closing? k := by
  rw [closing?_put]
  split
  · rename_i hk
    rw [← hk, closing?_of_get? hc, hsame]
  · rfl

theorem closing?_remove :
    (board.remove id).closing? k = if id = k then none else board.closing? k := by
  rw [closing?, get?_remove]
  split <;> rfl

/-- Only a request to close lets a connection be closed. -/
theorem closing?_carryOut (call : Outgoing String) :
    (board.carryOut call).closing? k =
      if call = .disconnect k then (board.closing? k).map fun _ => true else board.closing? k := by
  rw [closing?, get?_carryOut, closing?]
  cases call with
  | send who text =>
    by_cases hk : who = k <;> cases board.get? k <;> simp [Outgoing.actOn, hk]
  | broadcast text => cases board.get? k <;> simp [Outgoing.actOn]
  | disconnect who =>
    by_cases hk : who = k <;> cases board.get? k <;> simp [Outgoing.actOn, hk]

end Switchboard

namespace Multiplexer

variable {σ ε : Type} {net : Host ε} {handler : Handler σ} {start : σ} {m m' : Multiplexer σ ε}

/-! ## What an event does -/

theorem raise_journal (hstate : m.state = handler.after start m.journal) (event : Event) :
    (raise handler m event).journal =
      handler.answers start m.journal event m.board.count ++
        .raised event m.board.count :: m.journal := by
  unfold raise
  dsimp only
  rw [foldl_call, hstate]
  rfl

/-- An event that is raised is answered. -/
theorem answered_raise (hstate : m.state = handler.after start m.journal)
    (hanswered : handler.Answered start m.journal) (event : Event) :
    handler.Answered start (raise handler m event).journal := by
  rw [raise_journal hstate]
  exact hanswered.raise event m.board.count

/-! ## The server is as its journal tells -/

/-- The server is as its journal tells, and the journal is lawful. -/
structure Consistent (handler : Handler σ) (start : σ) (m : Multiplexer σ ε) : Prop where
  /-- The handler is in the state that the events led to. -/
  state : m.state = handler.after start m.journal
  /-- A connection is in the table, to be closed or not, as it stands. -/
  closing? : ∀ id, m.board.closing? id = (standing id m.journal).closing?
  /-- Handles that are still to come are new. -/
  unseen : ∀ id, m.nextHandle ≤ id → standing id m.journal = .unseen
  /-- Every entry may follow those before it. -/
  lawful : Lawful m.journal

namespace Consistent

theorem create (listen : ListenSettings) (start : σ) (host : ε) :
    Consistent handler start (Multiplexer.create listen start host) where
  state := rfl
  closing? _ := Switchboard.closing?_empty
  unseen _ _ := rfl
  lawful := trivial

/-- Nobody in the table has a handle that is still to come. -/
theorem get?_lt {id : Handle} {c : Connection} (h : Consistent handler start m)
    (hc : m.board.get? id = some c) : id < m.nextHandle := by
  refine Nat.lt_of_not_le fun hle => ?_
  have hunseen := h.closing? id
  rw [h.unseen id hle, Switchboard.closing?_of_get? hc] at hunseen
  cases hunseen

/-- The table and the journal agree on whether a connection is to be closed. -/
theorem reads_iff {id : Handle} {c : Connection} (h : Consistent handler start m)
    (hc : m.board.get? id = some c) : c.closing = false ↔ standing id m.journal = .active := by
  have hsame : some c.closing = (standing id m.journal).closing? := by
    rw [← h.closing?, Switchboard.closing?_of_get? hc]
  constructor
  · intro hread
    rw [hread] at hsame
    exact Standing.eq_active_of_closing? hsame.symm
  · intro hactive
    rw [hactive] at hsame
    exact Option.some.inj hsame

/-- Lines are accepted from a connection that is read. -/
theorem accepts_iff {id : Handle} (h : Consistent handler start m) :
    m.board.accepts id = true ↔ standing id m.journal = .active := by
  rw [Switchboard.accepts_iff_closing?, h.closing?]
  constructor
  · exact Standing.eq_active_of_closing?
  · intro hactive
    rw [hactive]
    rfl

/-- Other parts of the server may change. -/
theorem congr (h : Consistent handler start m) (hstate : m'.state = m.state)
    (hjournal : m'.journal = m.journal) (hnext : m.nextHandle ≤ m'.nextHandle)
    (hboard : ∀ id, m'.board.closing? id = m.board.closing? id) :
    Consistent handler start m' where
  state := by rw [hstate, hjournal, h.state]
  closing? id := by rw [hboard, hjournal, h.closing?]
  unseen id hid := by rw [hjournal, h.unseen id (Nat.le_trans hnext hid)]
  lawful := hjournal ▸ h.lawful

/-- Something is noted that moves no connection and that the handler is not told. -/
theorem record {entry : Entry} (h : Consistent handler start m)
    (hafter : handler.after start (entry :: m.journal) = handler.after start m.journal)
    (hmoves : ∀ id, standing id (entry :: m.journal) = standing id m.journal)
    (hfollows : entry.Follows m.journal) : Consistent handler start (m.record entry) where
  state := h.state.trans hafter.symm
  closing? id := (h.closing? id).trans (congrArg Standing.closing? (hmoves id)).symm
  unseen id hid := (hmoves id).trans (h.unseen id hid)
  lawful := ⟨hfollows, h.lawful⟩

/-- A call is made. -/
theorem call (h : Consistent handler start m) (call : Outgoing String) :
    Consistent handler start (m.call call) where
  state := h.state
  closing? id := by
    refine (Switchboard.closing?_carryOut call).trans ?_
    rw [h.closing?]
    cases call with
    | send => rfl
    | broadcast => rfl
    | disconnect who =>
      refine Eq.trans ?_ (congrArg Standing.closing? standing_disconnect.symm)
      by_cases hwho : who = id
      · rw [if_pos (congrArg _ hwho), if_pos hwho, Standing.closing?_asked]
      · rw [if_neg hwho, if_neg fun he => hwho (Outgoing.disconnect.inj he)]
  unseen id hid := by
    have hbefore := h.unseen id hid
    cases call with
    | send => exact hbefore
    | broadcast => exact hbefore
    | disconnect who =>
      refine standing_disconnect.trans ?_
      split
      · exact Standing.asked_eq_unseen_iff.mpr hbefore
      · exact hbefore
  lawful := ⟨trivial, h.lawful⟩

/-- An event is noted after which the server is as the journal will tell. -/
theorem noted {event : Event} (hstate : m.state = handler.after start m.journal)
    (hclosing : ∀ id, m.board.closing? id =
      (standing id (.raised event m.board.count :: m.journal)).closing?)
    (hunseen : ∀ id, m.nextHandle ≤ id →
      standing id (.raised event m.board.count :: m.journal) = .unseen)
    (hfollows : (Entry.raised event m.board.count).Follows m.journal) (hlawful : Lawful m.journal) :
    Consistent handler start (Multiplexer.noted handler m event) := by
  refine ⟨?_, hclosing, hunseen, hfollows, hlawful⟩
  rw [Multiplexer.noted, hstate]
  rfl

/-- A connection comes under a handle that is new. -/
theorem noted_connect (h : Consistent handler start m) :
    Consistent handler start
      (Multiplexer.noted handler
        { m with nextHandle := m.nextHandle + 1,
                 board := m.board.put m.nextHandle Connection.fresh }
        (.connect m.nextHandle)) := by
  refine noted h.state ?_ ?_ (h.unseen m.nextHandle (Nat.le_refl m.nextHandle)) h.lawful
  · intro id
    refine Switchboard.closing?_put.trans ?_
    rw [h.closing?, standing_connect]
    split <;> rfl
  · intro id hid
    exact (if_neg (Nat.ne_of_lt hid)).trans (h.unseen id (Nat.le_of_succ_le hid))

/-- A line is handed on. -/
theorem noted_line {id : Handle} (h : Consistent handler start m) (text : String)
    (haccepts : m.board.accepts id = true) :
    Consistent handler start (Multiplexer.noted handler m (.line id text)) := by
  exact noted h.state h.closing? h.unseen (h.accepts_iff.mp haccepts) h.lawful

/-- A connection leaves the table. -/
theorem leave {id : Handle} {c : Connection} (h : Consistent handler start m)
    (hc : m.board.get? id = some c) (cause : Closing) :
    Consistent handler start
      ({ m with board := m.board.remove id }.record (.closed id cause c.outbound)) := by
  have hpresent : (standing id m.journal).closing?.isSome = true := by
    rw [← h.closing?, Switchboard.closing?_of_get? hc]
    rfl
  refine ⟨h.state, fun k => ?_, fun k hk => ?_, hpresent, h.lawful⟩
  · refine Switchboard.closing?_remove.trans ?_
    rw [h.closing?]
    change _ = (standing k (.closed id cause c.outbound :: m.journal)).closing?
    rw [standing_closed]
    split <;> rfl
  · change standing k (.closed id cause c.outbound :: m.journal) = .unseen
    rw [standing_closed, if_neg (Nat.ne_of_lt (Nat.lt_of_lt_of_le (h.get?_lt hc) hk))]
    exact h.unseen k hk

/-- A connection is closed. -/
theorem noted_drop {id : Handle} {c : Connection} {cause : Closing}
    (h : Consistent handler start m) (hc : m.board.get? id = some c)
    (hcause : cause ≠ .deactivated) :
    Consistent handler start
      (Multiplexer.noted handler
        ({ m with board := m.board.remove id }.record (.closed id cause c.outbound))
        (.drop id)) := by
  have hleft := h.leave hc cause
  exact noted hleft.state hleft.closing? hleft.unseen ⟨cause, c.outbound, hcause, rfl⟩ hleft.lawful

/-- Everything is closed at once. -/
theorem deactivate (h : Consistent handler start m) : Consistent handler start m.deactivate := by
  refine deactivate_keeps (fun hc hm => hm.leave hc .deactivated) (fun hempty hm => ?_) h
  refine hm.congr rfl rfl (Nat.le_refl _) fun id => ?_
  refine Switchboard.closing?_empty.trans ?_
  rw [Switchboard.closing?, hempty, Option.map_none]

end Consistent

/-- Every action keeps the server as its journal tells. -/
theorem Action.consistent (h : Action net handler m m') (hm : Consistent handler start m) :
    Consistent handler start m' := by
  cases h with
  | asked => exact hm.congr rfl rfl (Nat.le_refl _) fun _ => rfl
  | read => exact hm.congr rfl rfl (Nat.le_refl _) fun _ => rfl
  | listened => exact hm.congr rfl rfl (Nat.le_refl _) fun _ => rfl
  | deactivated => exact hm.deactivate
  | verbosity => exact hm.congr rfl rfl (Nat.le_refl _) fun _ => rfl
  | call call => exact hm.call call
  | admitted => exact raise_keeps hm.noted_connect fun c hm => hm.call c
  | skipped => exact hm.congr rfl rfl (Nat.le_succ _) fun _ => rfl
  | @received id c bytes hc hread =>
    have hput : Consistent handler start { m with board := m.board.put id (c.receive bytes).1 } :=
      hm.congr rfl rfl (Nat.le_refl _) fun _ =>
        Switchboard.closing?_put_of_get? hc Connection.closing_receive
    exact hput.record rfl (fun _ => rfl) ((hm.reads_iff hc).mp hread)
  | line text haccepts =>
    exact raise_keeps (hm.noted_line text haccepts) fun c hm => hm.call c
  | @wrote id c hc =>
    have hput : Consistent handler start
        { m with host := (net.write m.host id c.outbound).2,
                 board := m.board.put id { c with outbound := (m.flushed net id c).left } } :=
      hm.congr rfl rfl (Nat.le_refl _) fun _ => Switchboard.closing?_put_of_get? hc rfl
    have hpresent : (standing id m.journal).closing?.isSome = true := by
      rw [← hm.closing?, Switchboard.closing?_of_get? hc]
      rfl
    have hwrote : Entry.Follows m.journal (.wrote id (m.flushed net id c).written) := hpresent
    exact written_keeps (hput.record rfl (fun _ => rfl) hwrote) fun hnoted =>
      hnoted.record rfl (fun _ => rfl) hpresent
  | armed hc =>
    exact hm.congr rfl rfl (Nat.le_refl _) fun _ => Switchboard.closing?_put_of_get? hc rfl
  | marked => exact hm.congr rfl rfl (Nat.le_refl _) fun _ => Switchboard.closing?_mark
  | taken => exact hm.congr rfl rfl (Nat.le_refl _) fun _ => rfl
  | closed hc hmay =>
    rw [close_of_get? hc]
    refine raise_keeps (hm.noted_drop hc ?_) fun c hm => hm.call c
    rintro rfl
    exact hmay

theorem Consistent.actions (hm : Consistent handler start m)
    (h : ReflTransGen (Action net handler) m m') : Consistent handler start m' :=
  keeps_of_steps (P := Consistent handler start) Action.consistent h hm

/-- Every action answers the events that it raises. -/
theorem Action.answered (h : Action net handler m m') (hm : Consistent handler start m)
    (hanswered : handler.Answered start m.journal) : handler.Answered start m'.journal := by
  cases h with
  | asked => exact hanswered
  | read => exact hanswered
  | listened => exact hanswered
  | deactivated =>
    unfold Multiplexer.deactivate
    split
    · exact hanswered
    · exact hanswered.append (by simp)
  | verbosity => exact hanswered
  | call call => exact hanswered.cons (.called call) fun _ _ => nofun
  | admitted =>
    refine answered_raise ?_ ?_ (.connect m.nextHandle)
    · exact hm.state
    · exact hanswered
  | skipped => exact hanswered
  | @received id c bytes => exact hanswered.cons (.received id bytes) fun _ _ => nofun
  | line text => exact answered_raise hm.state hanswered (.line _ text)
  | @wrote id c =>
    exact written_keeps (P := fun m => handler.Answered start m.journal)
      (hanswered.cons (.wrote id _) fun _ _ => nofun)
      fun hwrote => hwrote.cons (.writeFailed id) fun _ _ => nofun
  | armed => exact hanswered
  | marked => exact hanswered
  | taken => exact hanswered
  | @closed id c cause hc =>
    rw [close_of_get? hc]
    have hclosed := hanswered.cons (.closed id cause c.outbound) fun _ _ => nofun
    refine answered_raise ?_ ?_ (.drop id)
    · exact hm.state
    · exact hclosed

/-! ## Whole runs -/

section Runs

variable (net : Host ε) (handler : Handler σ) (listen : ListenSettings) (start : σ) (host : ε)
  (demands : List (Demand ε))

theorem run_create :
    Consistent handler start (run net handler (create listen start host) demands) ∧
      handler.Answered start (run net handler (create listen start host) demands).journal := by
  refine run_keeps net handler
    (P := fun m => Consistent handler start m ∧ handler.Answered start m.journal) ?_ ?_ ?_
  · rintro m m' haction ⟨hm, hanswered⟩
    exact ⟨haction.consistent hm, haction.answered hm hanswered⟩
  · rintro m change - ⟨hm, hanswered⟩
    exact ⟨hm.congr rfl rfl (Nat.le_refl _) fun _ => rfl, hanswered⟩
  · exact ⟨Consistent.create listen start host, Handler.answered_nil⟩

/-- Throughout every run the server is as its journal tells. -/
theorem run_consistent :
    Consistent handler start (run net handler (create listen start host) demands) :=
  (run_create net handler listen start host demands).1

/-- In every run the handler answers every event at once. -/
theorem run_answered :
    handler.Answered start (run net handler (create listen start host) demands).journal :=
  (run_create net handler listen start host demands).2

end Runs

end Multiplexer

end RelayChat
