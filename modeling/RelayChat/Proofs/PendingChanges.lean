import RelayChat.Proofs.Stages

/-!
# Changes that wait to be applied

Calls only queue output and ask for connections to be closed. A connection is at ease
(`Connection.AtEase`) when nothing follows from that any more: the poller watches for
room to write exactly when there is output, and a connection that is to be closed still
has output. `Switchboard.Tended` says that every other connection waits for its change
to be applied. Calls keep the table tended, and applying changes ends with nobody
waiting (`settle_pending`), since every pass that leaves somebody waiting has closed a
connection. So whenever a demand has been met, all connections are at ease
(`run_atEase`).
-/

namespace RelayChat

open Relation

namespace Connection

/-- No change of the connection has to be applied. -/
structure AtEase (c : Connection) : Prop where
  /-- The poller watches for room to write exactly when there is output. -/
  watched : c.watchesWrites = c.hasOutput
  /-- A connection that is to be closed still has output. -/
  kept : c.closing = true → c.hasOutput = true

variable {c : Connection} {bytes : List UInt8}

theorem hasOutput_iff : c.hasOutput = true ↔ c.outbound ≠ [] := by
  simp [hasOutput]

theorem atEase_fresh : fresh.AtEase := ⟨rfl, nofun⟩

theorem AtEase.receive (h : c.AtEase) : (c.receive bytes).1.AtEase := ⟨h.watched, h.kept⟩

/-- More output makes no difference to a connection that has some already. -/
theorem AtEase.queue (h : c.AtEase) (hout : c.hasOutput = true) : (c.queue bytes).AtEase := by
  have hmore : (c.queue bytes).hasOutput = true := by
    rw [hasOutput_iff] at hout ⊢
    exact fun he => hout (List.append_eq_nil_iff.mp he).1
  exact ⟨h.watched.trans (hout.trans hmore.symm), fun _ => hmore⟩

end Connection

namespace Switchboard

/-- Whoever is not at ease waits for a change to be applied, or is among those who are
still to be dealt with. -/
def Tended (todo : List Handle) (board : Switchboard) : Prop :=
  ∀ id c, board.get? id = some c → id ∈ board.pending ∨ id ∈ todo ∨ c.AtEase

variable {board : Switchboard} {todo : List Handle} {id k : Handle} {c c' : Connection}

theorem mem_pending_mark : k ∈ (board.mark id).pending ↔ k = id ∨ k ∈ board.pending := by
  unfold mark
  split
  · rename_i hmem
    rw [List.contains_iff_mem] at hmem
    constructor
    · exact Or.inr
    · rintro (rfl | hk)
      · exact hmem
      · exact hk
  · rw [List.mem_append, List.mem_singleton, or_comm]

namespace Tended

/-- Whoever is marked waits. -/
theorem mark (h : board.Tended (id :: todo)) : (board.mark id).Tended todo := by
  intro k c hc
  rw [get?_mark] at hc
  rw [mem_pending_mark]
  rcases h k c hc with hpending | htodo | hease
  · exact Or.inl (Or.inr hpending)
  · rcases List.mem_cons.mp htodo with rfl | htodo
    · exact Or.inl (Or.inl rfl)
    · exact Or.inr (Or.inl htodo)
  · exact Or.inr (Or.inr hease)

/-- A connection that is to be dealt with may change. -/
theorem change (h : board.Tended (id :: todo)) (c : Connection) :
    (board.put id c).Tended (id :: todo) := by
  intro k c' hc'
  rw [get?_put] at hc'
  by_cases hk : id = k
  · exact Or.inr (Or.inl (hk ▸ List.mem_cons_self))
  · rw [if_neg hk] at hc'
    exact h k c' hc'

/-- A connection that is put at ease has been dealt with. -/
theorem ease (h : board.Tended (id :: todo)) (hease : c.AtEase) : (board.put id c).Tended todo := by
  intro k c' hc'
  rw [get?_put] at hc'
  by_cases hk : id = k
  · rw [if_pos hk] at hc'
    cases hc'
    exact Or.inr (Or.inr hease)
  · rw [if_neg hk] at hc'
    refine (h k c' hc').imp_right fun hrest => hrest.imp_left fun htodo => ?_
    exact (List.mem_cons.mp htodo).resolve_left (Ne.symm hk)

/-- A connection may change in a way that leaves it at ease. -/
theorem put (h : board.Tended todo) (hc : board.get? id = some c) (hkeeps : c.AtEase → c'.AtEase) :
    (board.put id c').Tended todo := by
  intro k c'' hc''
  rw [get?_put] at hc''
  by_cases hk : id = k
  · subst hk
    rw [if_pos rfl] at hc''
    cases hc''
    exact (h id c hc).imp_right fun hrest => hrest.imp_right hkeeps
  · rw [if_neg hk] at hc''
    exact h k c'' hc''

/-- A connection that has left has been dealt with. -/
theorem remove (h : board.Tended (id :: todo)) : (board.remove id).Tended todo := by
  intro k c hc
  rw [get?_remove] at hc
  by_cases hk : id = k
  · rw [if_pos hk] at hc
    cases hc
  · rw [if_neg hk] at hc
    refine (h k c hc).imp_right fun hrest => hrest.imp_left fun htodo => ?_
    exact (List.mem_cons.mp htodo).resolve_left (Ne.symm hk)

theorem cons (h : board.Tended todo) (id : Handle) : board.Tended (id :: todo) := fun k c hc =>
  (h k c hc).imp_right fun hrest => hrest.imp_left (List.mem_cons_of_mem id)

/-- A handle without a connection needs not be dealt with. -/
theorem of_none (h : board.Tended (id :: todo)) (hid : board.get? id = none) :
    board.Tended todo := by
  intro k c hc
  refine (h k c hc).imp_right fun hrest => hrest.imp_left fun htodo => ?_
  rcases List.mem_cons.mp htodo with rfl | htodo
  · rw [hid] at hc
    cases hc
  · exact htodo

/-- Those who wait are to be dealt with once they are taken up. -/
theorem take (h : board.Tended []) :
    ({ board with pending := [] } : Switchboard).Tended board.pending := by
  intro k c hc
  rcases h k c hc with hpending | htodo | hease
  · exact Or.inr (Or.inl hpending)
  · cases htodo
  · exact Or.inr (Or.inr hease)

theorem send (h : board.Tended todo) (id : Handle) (text : String) :
    (board.send id text).Tended todo := by
  unfold Switchboard.send
  cases hc : board.get? id with
  | none => exact h
  | some c =>
    dsimp only
    split
    · exact h
    · split
      · exact ((h.cons id).change _).mark
      · rename_i hquiet
        -- either there was output before, or the text has no bytes
        refine h.put hc fun hease => ?_
        cases hout : c.hasOutput with
        | true => exact hease.queue hout
        | false =>
          have hempty : text = "" := by simpa [hout] using hquiet
          have hnone : c.queue (LossyUtf8.encode text) = c := by
            rw [hempty, Connection.queue]
            simp [LossyUtf8.encode]
          rwa [hnone]

/-- Calls let wait whom they concern. -/
theorem carryOut (h : board.Tended todo) (call : Outgoing String) :
    (board.carryOut call).Tended todo := by
  cases call with
  | send who text => exact h.send who text
  | broadcast text =>
    have hfold : ∀ (ids : List Handle) (board : Switchboard), board.Tended todo →
        (ids.foldl (fun board id => board.send id text) board).Tended todo := by
      intro ids
      induction ids with
      | nil => exact fun _ hboard => hboard
      | cons id ids ih => exact fun board hboard => ih (board.send id text) (hboard.send id text)
    exact hfold board.connections.keys board h
  | disconnect who =>
    rw [Switchboard.carryOut, disconnect]
    cases hc : board.get? who with
    | none => exact h
    | some c =>
      dsimp only
      split
      · exact h
      · exact ((h.cons who).change _).mark

end Tended

end Switchboard

namespace Multiplexer

variable {σ ε : Type} {net : Host ε} {handler : Handler σ} {m m' : Multiplexer σ ε}
  {todo : List Handle} {id : Handle} {c : Connection}

/-! ## Whoever is not at ease waits -/

/-- The server listens exactly when it has a poller, it has connections only then, and
its table is tended. -/
structure Tidy (todo : List Handle) (m : Multiplexer σ ε) : Prop where
  /-- It listens exactly when it has a poller. -/
  listens : m.listener.isSome = m.poller
  /-- Where there is a connection there is a poller. -/
  polls : ∀ id c, m.board.get? id = some c → m.poller = true
  /-- Whoever is not at ease waits or is still to be dealt with. -/
  tended : m.board.Tended todo

namespace Tidy

theorem create (listen : ListenSettings) (start : σ) (host : ε) :
    Tidy [] (Multiplexer.create listen start host) where
  listens := rfl
  polls id c hc := by
    have hnone : Switchboard.empty.get? id = none := Switchboard.get?_empty
    cases hnone.symm.trans hc
  tended id c hc := by
    have hnone : Switchboard.empty.get? id = none := Switchboard.get?_empty
    cases hnone.symm.trans hc

/-- A connection of the table is put back changed. -/
theorem put {todo' : List Handle} {c' : Connection} (h : Tidy todo m)
    (hc : m.board.get? id = some c) (htended : (m.board.put id c').Tended todo') :
    Tidy todo' { m with board := m.board.put id c' } :=
  ⟨h.listens, fun _ _ _ => h.polls id c hc, htended⟩

theorem call (h : Tidy todo m) (call : Outgoing String) : Tidy todo (m.call call) := by
  refine ⟨h.listens, fun k c hc => ?_, h.tended.carryOut call⟩
  have hbefore : (m.board.get? k).map (call.actOn k) = some c :=
    (Switchboard.get?_carryOut call).symm.trans hc
  obtain ⟨c', hc', -⟩ := Option.map_eq_some_iff.mp hbefore
  exact h.polls k c' hc'

theorem raise (h : Tidy todo m) (event : Event) :
    Tidy todo (Multiplexer.raise handler m event) :=
  raise_keeps ⟨h.listens, h.polls, h.tended⟩ fun c hm => hm.call c

theorem close (h : Tidy (id :: todo) m) (cause : Closing) :
    Tidy todo (Multiplexer.close handler m id cause) := by
  cases hc : m.board.get? id with
  | none =>
    rw [Multiplexer.close, hc]
    exact ⟨h.listens, h.polls, h.tended.of_none hc⟩
  | some c =>
    rw [close_of_get? hc]
    apply raise
    exact ⟨h.listens, fun _ _ _ => h.polls id c hc, h.tended.remove⟩

/-- Writing leaves a connection to be dealt with, and changes nothing but its output. -/
theorem flush (net : Host ε) (h : Tidy (id :: todo) m) (hc : m.board.get? id = some c) :
    ∃ m' c' failed, Multiplexer.flush net m id c = (m', c', failed) ∧ Tidy (id :: todo) m' ∧
      m'.board.get? id = some c' ∧ c'.closing = c.closing := by
  unfold Multiplexer.flush
  split
  · exact ⟨m, c, false, rfl, h, hc, rfl⟩
  · let flushed := Connection.flush c.outbound (net.write m.host id c.outbound).1
    have hput : Tidy (id :: todo)
        { m with board := m.board.put id { c with outbound := flushed.left } } :=
      h.put hc (h.tended.change _)
    refine ⟨_, _, _, rfl, ?_, ?_, rfl⟩
    · split <;> exact ⟨hput.listens, hput.polls, hput.tended⟩
    · split <;> exact Switchboard.get?_put_self _ _ _

/-- Once the poller watches for what a connection needs, the connection is at ease. -/
theorem watch (h : Tidy (id :: todo) m) (hc : m.board.get? id = some c)
    (hkept : c.closing = true → c.hasOutput = true) :
    Tidy todo (Multiplexer.watch net handler m id c) := by
  unfold Multiplexer.watch
  split
  · rename_i hsame
    have hwatched : c.hasOutput = c.watchesWrites := by
      simpa [h.polls id c hc] using hsame
    refine ⟨h.listens, h.polls, fun k c' hc' => ?_⟩
    rcases h.tended k c' hc' with hpending | htodo | hease
    · exact Or.inl hpending
    · rcases List.mem_cons.mp htodo with rfl | htodo
      · rw [hc] at hc'
        cases hc'
        exact Or.inr (Or.inr ⟨hwatched.symm, hkept⟩)
      · exact Or.inr (Or.inl htodo)
    · exact Or.inr (Or.inr hease)
  · have hasked : Tidy (id :: todo) { m with host := (net.arm m.host id c.hasOutput).2 } :=
      ⟨h.listens, h.polls, h.tended⟩
    dsimp only
    split
    · exact hasked.put hc (hasked.tended.ease ⟨rfl, hkept⟩)
    · exact hasked.close .unwatched

/-- Whoever's changes are applied has been dealt with. -/
theorem settleOne (h : Tidy (id :: todo) m) :
    Tidy todo (Multiplexer.settleOne net handler m id) := by
  unfold Multiplexer.settleOne
  cases hc : m.board.get? id with
  | none => exact ⟨h.listens, h.polls, h.tended.of_none hc⟩
  | some c =>
    dsimp only
    split
    · obtain ⟨m', c', failed, he, hflushed, hc', -⟩ := h.flush net hc
      rw [he]
      dsimp only
      split
      · rename_i hout
        exact hflushed.watch hc' fun _ => hout
      · exact hflushed.close _
    · rename_i hopen
      exact h.watch hc fun hclosing => absurd hclosing hopen

theorem settleAll (ids : List Handle) (h : Tidy ids m) :
    Tidy [] (ids.foldl (Multiplexer.settleOne net handler) m) := by
  induction ids generalizing m with
  | nil => exact h
  | cons id ids ih => exact ih h.settleOne

theorem settleWithin (passes : Nat) (h : Tidy [] m) :
    Tidy [] (Multiplexer.settleWithin net handler passes m) := by
  induction passes generalizing m with
  | zero => exact h
  | succ passes ih =>
    rw [Multiplexer.settleWithin]
    split
    · exact h
    · exact ih (settleAll m.board.pending ⟨h.listens, h.polls, h.tended.take⟩)

theorem settle (h : Tidy [] m) : Tidy [] (Multiplexer.settle net handler m) :=
  h.settleWithin (m.board.count + 2)

theorem dispatch (lines : List String) (h : Tidy [] m) :
    Tidy [] (Multiplexer.dispatch net handler id lines m) := by
  induction lines generalizing m with
  | nil => exact h
  | cons line lines ih =>
    rw [Multiplexer.dispatch]
    split
    · exact ih (h.raise (.line id line)).settle
    · exact h

theorem writeAll (h : Tidy [] m) : Tidy [] (Multiplexer.writeAll net handler m id) := by
  unfold Multiplexer.writeAll
  cases hc : m.board.get? id with
  | none => exact h
  | some c =>
    have hopen : Tidy [id] m := ⟨h.listens, h.polls, h.tended.cons id⟩
    obtain ⟨m', c', failed, he, hflushed, -⟩ := hopen.flush net hc
    dsimp only
    rw [he]
    dsimp only
    split
    · exact hflushed.close .writeFailed
    · refine ⟨hflushed.listens, fun k c hc => hflushed.polls k c ?_, hflushed.tended.mark⟩
      exact Switchboard.get?_mark.symm.trans hc

theorem deactivate (h : Tidy [] m) : Tidy [] m.deactivate := by
  have hnone : ∀ id, Switchboard.empty.get? id = none := fun _ => Switchboard.get?_empty
  unfold Multiplexer.deactivate
  split
  · exact h
  · refine ⟨rfl, fun id c hc => ?_, fun id c hc => ?_⟩
    · cases (hnone id).symm.trans hc
    · cases (hnone id).symm.trans hc

theorem round (hround : Round net handler m m') (h : Tidy [] m) : Tidy [] m' := by
  cases hround with
  | asked => exact ⟨h.listens, h.polls, h.tended⟩
  | admitted hlistens =>
    have hpoller : m.poller = true := h.listens.symm.trans hlistens
    have hfresh := (h.tended.cons m.nextHandle).ease Connection.atEase_fresh
    apply raise
    exact ⟨h.listens, fun _ _ _ => hpoller, hfresh⟩
  | skipped => exact ⟨h.listens, h.polls, h.tended⟩
  | read id =>
    refine readAll_keeps net handler (P := Tidy []) id (fun _ hm => ?_)
      (fun bytes hc _ hm => ?_) (fun hc _ hm => ?_) h
    · exact ⟨hm.listens, hm.polls, hm.tended⟩
    · have hput := hm.put hc (hm.tended.put hc (@Connection.AtEase.receive _ bytes))
      exact dispatch _ ⟨hput.listens, hput.polls, hput.tended⟩
    · exact close ⟨hm.listens, hm.polls, hm.tended.cons id⟩ .readEnded
  | @closed id c cause hc =>
    exact close ⟨h.listens, h.polls, h.tended.cons id⟩ cause
  | wrote => exact h.writeAll
  | settled => exact h.settle

/-- Between two stages only those who wait are not at ease. -/
theorem stage (hstage : Stage net handler m m') (h : Tidy [] m) : Tidy [] m' := by
  cases hstage with
  | served hround => exact h.round hround
  | listened => exact ⟨rfl, fun _ _ _ => rfl, h.tended⟩
  | deactivated => exact h.deactivate
  | verbosity => exact ⟨h.listens, h.polls, h.tended⟩
  | call call => exact h.call call

end Tidy

/-! ## Applying changes comes to an end -/

/-- Connections have been closed, or nobody has begun to wait. -/
def Nearer (m m' : Multiplexer σ ε) : Prop :=
  m'.board.count < m.board.count ∨
    (m'.board.count = m.board.count ∧ m'.board.pending = m.board.pending)

namespace Nearer

theorem refl (m : Multiplexer σ ε) : Nearer m m := Or.inr ⟨rfl, rfl⟩

theorem trans {m'' : Multiplexer σ ε} (h : Nearer m m') (h' : Nearer m' m'') : Nearer m m'' := by
  rcases h with hless | ⟨hcount, hpending⟩
  · rcases h' with hless' | ⟨hcount', -⟩
    · exact Or.inl (Nat.lt_trans hless' hless)
    · exact Or.inl (hcount' ▸ hless)
  · rcases h' with hless' | ⟨hcount', hpending'⟩
    · exact Or.inl (hcount ▸ hless')
    · exact Or.inr ⟨hcount'.trans hcount, hpending'.trans hpending⟩

theorem close (hc : m.board.get? id = some c) (cause : Closing) :
    Nearer m (Multiplexer.close handler m id cause) := by
  have hcount : (Multiplexer.close handler m id cause).board.count + 1 = m.board.count := by
    rw [close_of_get? hc]
    refine raise_keeps (P := fun after => after.board.count + 1 = m.board.count) ?_ ?_
    · exact Switchboard.count_remove hc
    · exact fun call hm => (congrArg (· + 1) (Switchboard.count_carryOut call)).trans hm
  exact Or.inl (by omega)

theorem flush (net : Host ε) (hc : m.board.get? id = some c) :
    ∃ m' c' failed, Multiplexer.flush net m id c = (m', c', failed) ∧ Nearer m m' ∧
      m'.board.get? id = some c' := by
  unfold Multiplexer.flush
  split
  · exact ⟨m, c, false, rfl, refl m, hc⟩
  · refine ⟨_, _, _, rfl, ?_, ?_⟩
    · split <;> exact Or.inr ⟨Switchboard.count_put_of_get? hc, rfl⟩
    · split <;> exact Switchboard.get?_put_self _ _ _

theorem watch (hc : m.board.get? id = some c) :
    Nearer m (Multiplexer.watch net handler m id c) := by
  unfold Multiplexer.watch
  split
  · exact refl m
  · dsimp only
    split
    · exact Or.inr ⟨Switchboard.count_put_of_get? hc, rfl⟩
    · exact close (m := { m with host := (net.arm m.host id c.hasOutput).2 }) hc .unwatched

theorem settleOne (m : Multiplexer σ ε) (id : Handle) :
    Nearer m (Multiplexer.settleOne net handler m id) := by
  unfold Multiplexer.settleOne
  cases hc : m.board.get? id with
  | none => exact refl m
  | some c =>
    dsimp only
    split
    · obtain ⟨m', c', failed, he, hflushed, hc'⟩ := flush net hc
      rw [he]
      dsimp only
      split
      · exact hflushed.trans (watch hc')
      · exact hflushed.trans (close hc' _)
    · exact watch hc

theorem settleAll (ids : List Handle) (m : Multiplexer σ ε) :
    Nearer m (ids.foldl (Multiplexer.settleOne net handler) m) := by
  induction ids generalizing m with
  | nil => exact refl m
  | cons id ids ih => exact (settleOne m id).trans (ih _)

end Nearer

/-- A pass after which somebody waits has closed a connection. -/
theorem settlePass_count_lt (hwaits : (settlePass net handler m).board.pending ≠ []) :
    (settlePass net handler m).board.count < m.board.count := by
  have hnearer : Nearer { m with board := { m.board with pending := [] } }
      (settlePass net handler m) := Nearer.settleAll m.board.pending _
  rcases hnearer with hless | ⟨-, hnobody⟩
  · exact hless
  · exact absurd hnobody hwaits

/-- Nobody waits when nobody did, however many passes are allowed. -/
theorem settleWithin_of_pending (passes : Nat) (h : m.board.pending = []) :
    settleWithin net handler passes m = m := by
  cases passes with
  | zero => rfl
  | succ passes =>
    rw [settleWithin, h]
    rfl

/-- As many passes as there are connections, and one, are enough. -/
theorem settleWithin_pending {passes : Nat} (h : m.board.count < passes) :
    (settleWithin net handler passes m).board.pending = [] := by
  induction passes generalizing m with
  | zero => omega
  | succ passes ih =>
    rw [settleWithin]
    split
    · rename_i hnobody
      exact List.isEmpty_iff.mp hnobody
    · by_cases hwaits : (settlePass net handler m).board.pending = []
      · rwa [settleWithin_of_pending passes hwaits]
      · have hless := settlePass_count_lt hwaits
        exact ih (by omega)

/-- When changes have been applied nobody waits. -/
theorem settle_pending : (settle net handler m).board.pending = [] :=
  settleWithin_pending (by omega)

theorem wait_pending (h : m.board.pending = []) :
    (wait net handler m).1.board.pending = [] := by
  unfold wait
  split
  · exact h
  · dsimp only
    split
    · exact h
    · exact h
    · exact settle_pending

/-- A demand that finds nobody waiting leaves nobody waiting. -/
theorem meet_pending (demand : Demand ε) (h : m.board.pending = []) :
    (meet net handler m demand).board.pending = [] := by
  cases demand with
  | activate =>
    obtain ⟨host, hsystem | ⟨bound, hlistens⟩⟩ := activate_cases net m
    · rwa [meet, hsystem]
    · rwa [meet, hlistens]
  | deactivate =>
    rw [meet, deactivate]
    split
    · exact h
    · rfl
  | wait => exact wait_pending h
  | setVerbosity level =>
    obtain ⟨verbosity, hverbosity⟩ := setVerbosity_cases m level
    rwa [meet, hverbosity]
  | call calls => exact settle_pending
  | meanwhile change => exact h

theorem run_pending (demands : List (Demand ε)) (h : m.board.pending = []) :
    (run net handler m demands).board.pending = [] := by
  induction demands generalizing m with
  | nil => exact h
  | cons demand demands ih => exact ih (meet_pending demand h)

/-- Whenever a demand has been met everything is tidy. -/
theorem run_tidy (net : Host ε) (handler : Handler σ) (listen : ListenSettings) (start : σ)
    (host : ε) (demands : List (Demand ε)) :
    Tidy [] (run net handler (create listen start host) demands) :=
  run_keeps_of_stages net handler (fun hstage hm => hm.stage hstage)
    (fun _ _ hm => ⟨hm.listens, hm.polls, hm.tended⟩) (Tidy.create listen start host)

/-- In every run, whenever a demand has been met, all connections are at ease. -/
theorem run_atEase (net : Host ε) (handler : Handler σ) (listen : ListenSettings) (start : σ)
    (host : ε) (demands : List (Demand ε)) :
    let m := run net handler (create listen start host) demands
    m.board.pending = [] ∧ ∀ id c, m.board.get? id = some c → c.AtEase := by
  intro m
  have hpending : m.board.pending = [] := run_pending demands rfl
  have htidy : Tidy [] m := run_tidy net handler listen start host demands
  refine ⟨hpending, fun id c hc => ?_⟩
  rcases htidy.tended id c hc with hwaits | htodo | hease
  · rw [hpending] at hwaits
    cases hwaits
  · cases htodo
  · exact hease

end Multiplexer

end RelayChat
