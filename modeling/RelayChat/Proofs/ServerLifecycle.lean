import RelayChat.Proofs.EventProtocol
import RelayChat.Proofs.PendingChanges

/-!
# The life of a server

A server listens, is shut, and may listen again. What it needs for serving is there or gone
together: it has a listener exactly when it has a poller, and connections only then. That
is kept by every stage of a demand (`Tidy`); here it is put together with what the single
demands do at the borders. An attempt to listen that fails leaves the server as it was, and
so does one that finds it listening (`Activated`). Shutting takes all connections out of the
table and tells the handler nothing.

The counter of handles survives all that. Since any point of a run the journal has only
grown, and whoever came since then came under a handle that was still to come (`Since`).
-/

namespace RelayChat

open Relation

namespace Switchboard

variable {board : Switchboard}

/-- A table without connections in which nobody waits. -/
theorem eq_empty_of_get? (hnone : ∀ id, board.get? id = none) (hpending : board.pending = []) :
    board = empty := by
  have hconnections : board.connections = ∅ := Std.ExtTreeMap.ext_getElem? fun id => by
    rw [Std.ExtTreeMap.getElem?_empty]
    exact hnone id
  cases board
  simp only at hconnections hpending
  rw [hconnections, hpending, empty]

end Switchboard

namespace Multiplexer

variable {σ ε : Type} {net : Host ε} {handler : Handler σ} {past m m' : Multiplexer σ ε}

/-! ## Shutting -/

theorem deactivate_of_not_poller (h : m.poller = false) : m.deactivate = m := by
  rw [deactivate, h]
  rfl

theorem deactivate_poller : m.deactivate.poller = false := by
  unfold deactivate
  split
  · rename_i h
    simpa using h
  · rfl

/-- Shutting leaves alone all that does not belong to serving. -/
theorem deactivate_unmoved : m.deactivate.nextHandle = m.nextHandle ∧
    m.deactivate.state = m.state ∧ m.deactivate.listen = m.listen ∧
      m.deactivate.verbosity = m.verbosity ∧ m.deactivate.host = m.host := by
  unfold deactivate
  split <;> exact ⟨rfl, rfl, rfl, rfl, rfl⟩

/-- Shutting is noted as the closing of every connection, and as nothing else. -/
theorem deactivate_journal : ∃ closings, m.deactivate.journal = closings ++ m.journal ∧
    ∀ entry ∈ closings, ∃ id c, m.board.get? id = some c ∧
      entry = .closed id .deactivated c.outbound := by
  unfold deactivate
  split
  · exact ⟨[], rfl, nofun⟩
  · refine ⟨_, rfl, fun entry hentry => ?_⟩
    rw [List.mem_reverse] at hentry
    obtain ⟨⟨id, c⟩, hmem, rfl⟩ := List.mem_map.mp hentry
    exact ⟨id, c, Std.ExtTreeMap.mem_toList_iff_getElem?_eq_some.mp hmem, rfl⟩

/-! ## Where nobody is served -/

/-- A server that does not listen is without connections. -/
theorem Tidy.board_eq_empty (h : Tidy [] m) (hpending : m.board.pending = [])
    (hpoller : m.poller = false) : m.board = Switchboard.empty := by
  refine Switchboard.eq_empty_of_get? (fun id => ?_) hpending
  refine Option.eq_none_iff_forall_ne_some.mpr fun c hc => ?_
  cases hpoller.symm.trans (h.polls id c hc)

/-- An attempt to listen that fails changes nothing of the server, and nothing at all if the
settings are to blame. -/
theorem Activated.of_error {e : ServerError} {result : Multiplexer σ ε × Except ServerError Unit}
    (h : Activated net m result) (he : result.2 = .error e) :
    m.poller = false ∧ (∃ host, result.1 = { m with host := host }) ∧
      ((∃ problem, e = .settings problem ∧ result.1 = m) ∨
        ∃ address source, e = .bind address source) := by
  cases h with
  | already => cases he
  | unsettled hpoller =>
    cases he
    exact ⟨hpoller, ⟨m.host, rfl⟩, Or.inl ⟨_, rfl, rfl⟩⟩
  | unbound hpoller =>
    cases he
    exact ⟨hpoller, ⟨_, rfl⟩, Or.inr ⟨_, _, rfl⟩⟩
  | listens => cases he

/-- Whoever listens may be asked to listen again. -/
theorem activate_of_poller (h : m.poller = true) : m.activate net = (m, .ok ()) := by
  rw [activate, if_pos h]

/-! ## Handles that were still to come -/

/-- What has happened since an earlier point of a run. -/
structure Since (past m : Multiplexer σ ε) : Prop where
  /-- More has been noted, and whoever came has a handle that was still to come. -/
  grown : ∃ newer, m.journal = newer ++ past.journal ∧
    ∀ id ∈ comings newer, past.nextHandle ≤ id
  /-- No handle comes back. -/
  next : past.nextHandle ≤ m.nextHandle

namespace Since

theorem refl (m : Multiplexer σ ε) : Since m m := ⟨⟨[], rfl, nofun⟩, Nat.le_refl _⟩

/-- Other parts of the server may change. -/
theorem congr (h : Since past m) (hjournal : m'.journal = m.journal)
    (hnext : m.nextHandle ≤ m'.nextHandle) : Since past m' :=
  ⟨hjournal ▸ h.grown, Nat.le_trans h.next hnext⟩

/-- Something is noted by which nobody comes under a handle of the past. -/
theorem note {entry : Entry} (h : Since past m) (hjournal : m'.journal = entry :: m.journal)
    (hnext : m.nextHandle ≤ m'.nextHandle)
    (hcoming : ∀ id ∈ entry.coming, past.nextHandle ≤ id) : Since past m' := by
  obtain ⟨newer, hgrown, hnewer⟩ := h.grown
  refine ⟨⟨entry :: newer, ?_, fun id hid => ?_⟩, Nat.le_trans h.next hnext⟩
  · rw [hjournal, hgrown, List.cons_append]
  · rcases List.mem_append.mp hid with hid | hid
    · exact hnewer id hid
    · exact hcoming id hid

theorem call (h : Since past m) (call : Outgoing String) : Since past (m.call call) :=
  h.note rfl (Nat.le_refl _) nofun

/-- An event is raised by which nobody comes under a handle of the past. -/
theorem raise {event : Event} (h : Since past m)
    (hcoming : ∀ id, event = .connect id → past.nextHandle ≤ id) :
    Since past (Multiplexer.raise handler m event) := by
  have hnoted : Since past (noted handler m event) := by
    refine h.note rfl (Nat.le_refl _) fun id hid => ?_
    cases event with
    | connect k =>
      rw [List.mem_singleton.mp hid]
      exact hcoming k rfl
    | line => cases hid
    | drop => cases hid
  exact raise_keeps hnoted fun c hm => hm.call c

end Since

/-- Every action leaves the handles of the past behind. -/
theorem Action.since (h : Action net handler m m') (hm : Since past m) : Since past m' := by
  cases h with
  | asked => exact hm.congr rfl (Nat.le_refl _)
  | read => exact hm.congr rfl (Nat.le_refl _)
  | listened => exact hm.congr rfl (Nat.le_refl _)
  | deactivated =>
    refine deactivate_keeps (fun _ hm => ?_) (fun _ hm => hm.congr rfl (Nat.le_refl _)) hm
    exact hm.note rfl (Nat.le_refl _) nofun
  | verbosity => exact hm.congr rfl (Nat.le_refl _)
  | call call => exact hm.call call
  | admitted =>
    have hput : Since past
        { m with nextHandle := m.nextHandle + 1,
                 board := m.board.put m.nextHandle Connection.fresh } :=
      hm.congr rfl (Nat.le_succ m.nextHandle)
    refine hput.raise fun id he => ?_
    cases he
    exact hm.next
  | skipped => exact hm.congr rfl (Nat.le_succ m.nextHandle)
  | received => exact hm.note rfl (Nat.le_refl _) nofun
  | line text => exact hm.raise nofun
  | @wrote id c =>
    exact written_keeps (hm.note rfl (Nat.le_refl _) nofun) fun hwrote =>
      hwrote.note rfl (Nat.le_refl _) nofun
  | armed => exact hm.congr rfl (Nat.le_refl _)
  | marked => exact hm.congr rfl (Nat.le_refl _)
  | taken => exact hm.congr rfl (Nat.le_refl _)
  | @closed id c cause hc =>
    rw [close_of_get? hc]
    have hleft : Since past
        ({ m with board := m.board.remove id }.record (.closed id cause c.outbound)) :=
      hm.note rfl (Nat.le_refl _) nofun
    exact hleft.raise nofun

/-- So does every run. -/
theorem run_since (net : Host ε) (handler : Handler σ) (m : Multiplexer σ ε)
    (demands : List (Demand ε)) : Since m (run net handler m demands) :=
  run_keeps net handler (P := fun after => Since m after) (fun h hm => h.since hm)
    (fun _ _ hm => hm.congr rfl (Nat.le_refl _)) (Since.refl m)

/-! ## The whole life -/

/-- The life of a server that has met any demands: what opening, shutting and waiting change
when it listens and when it does not, and when opening fails. Shutting raises no event, and
whoever comes when the server listens again has a handle that nobody had before. -/
theorem server_lifecycle (net : Host ε) (handler : Handler σ) (listen : ListenSettings)
    (start : σ) (host : ε) (demands : List (Demand ε)) :
    let m := run net handler (create listen start host) demands
    let shut := m.deactivate
    (m.poller = true ↔ m.listener.isSome = true) ∧
    (m.poller = false →
      m.board = Switchboard.empty ∧ m.wait net handler = (m, .error .notActive)) ∧
    (m.poller = true → m.activate net = (m, .ok ())) ∧
    (∀ e, (m.activate net).2 = .error e →
      (∃ host, (m.activate net).1 = { m with host := host }) ∧
        ((∃ problem, e = .settings problem ∧ (m.activate net).1 = m) ∨
          ∃ address source, e = .bind address source)) ∧
    ((shut.poller = false ∧ shut.listener = none ∧ shut.board = Switchboard.empty) ∧
      shut.nextHandle = m.nextHandle ∧ shut.state = m.state ∧ shut.listen = m.listen ∧
        shut.verbosity = m.verbosity ∧ shut.host = m.host) ∧
    (∃ closings, shut.journal = closings ++ m.journal ∧
      ∀ entry ∈ closings, ∃ id c, m.board.get? id = some c ∧
        entry = .closed id .deactivated c.outbound) ∧
    shut.deactivate = shut ∧
    (∀ id ∈ comings m.journal, id < m.nextHandle) ∧
    ∀ later, ∃ newer, (run net handler shut later).journal = newer ++ shut.journal ∧
      ∀ id ∈ comings newer, m.nextHandle ≤ id := by
  intro m shut
  have htidy : Tidy [] m := run_tidy net handler listen start host demands
  have hpending : m.board.pending = [] := run_pending demands rfl
  have hshut : Tidy [] shut := htidy.deactivate
  have hpoller : shut.poller = false := deactivate_poller
  have hnobody : (meet net handler m .deactivate).board.pending = [] :=
    meet_pending Demand.deactivate hpending
  have hlater (later : List (Demand ε)) : Since shut (run net handler shut later) :=
    run_since net handler shut later
  have hnext : shut.nextHandle = m.nextHandle := deactivate_unmoved.1
  -- shutting is a demand like any other, and leaves a tidy server in which nobody waits
  refine ⟨?_, fun h => ⟨?_, wait_of_not_poller h⟩, activate_of_poller, fun e he => ?_,
    ⟨⟨hpoller, ?_, ?_⟩, deactivate_unmoved⟩, deactivate_journal, deactivate_of_not_poller hpoller,
    fun id hid => ?_, fun later => ?_⟩
  · rw [htidy.listens]
  · exact htidy.board_eq_empty hpending h
  · exact ((activated net m).of_error he).2
  · rw [← Option.not_isSome_iff_eq_none, hshut.listens, hpoller]
    exact Bool.false_ne_true
  · exact hshut.board_eq_empty hnobody hpoller
  · exact ((run_orderly net handler listen start host demands).bounded id hid).2
  · rw [← hnext]
    exact (hlater later).grown

end Multiplexer

end RelayChat
