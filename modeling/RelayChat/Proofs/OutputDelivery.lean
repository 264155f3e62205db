import RelayChat.Proofs.ReadySockets

/-!
# Delivery of output

Output is queued in the order of the calls and written in the order in which it was
queued, however much of it each attempt to write takes. `Accounted` keeps the account of
one connection: until a write to it fails, what was written and what is left make up what
was queued, and whoever is closed takes what is left along. Every elementary action keeps
the account. The account is the server's own; `Booked` says that it agrees with what the
system was given and has taken, and that what it was given was always the rest of what was
queued. A connection that is to be closed is closed when nothing is left, unless the
poller tells that it has ended or refuses to watch it, or the server is deactivated
(`Releases`). With what a wait gives to the system when there is room, `output_delivered`
puts it together for whole runs.
-/

namespace RelayChat

/-! ## What is read off the journal -/

/-- The bytes of an entry that were written to a connection. -/
def Entry.bytesTo (id : Handle) : Entry → List UInt8
  | .wrote k bytes => if k = id then bytes else []
  | _ => []

/-- The bytes written to a connection, in order. -/
def bytesWritten (id : Handle) : List Entry → List UInt8 := gathered (Entry.bytesTo id)

/-- The bytes of the texts that were queued for a connection, in order. -/
def bytesQueued (id : Handle) (journal : List Entry) : List UInt8 :=
  (queued id journal).flatMap LossyUtf8.encode

/-- Nothing is written to a connection but what was queued for it, and nothing else is
lost when it is closed, until a write to it fails. -/
def Entry.Accounts (id : Handle) (past : List Entry) : Entry → Prop
  | .wrote k bytes => k = id → .writeFailed id ∉ past →
      bytesWritten id past ++ bytes <+: bytesQueued id past
  | .closed k _ unsent => k = id → .writeFailed id ∉ past →
      bytesWritten id past ++ unsent = bytesQueued id past
  | _ => True

/-- What the system is given to write to a connection is what comes next of the bytes queued,
until a write to it fails. -/
def Dealing.Offers (id : Handle) (queued : List UInt8) (before : List Dealing) : Dealing → Prop
  | .wrote k bytes _ => k = id → writeBroke id before = false →
      bytesTaken id before ++ bytes <+: queued
  | _ => True

/-- More may have been queued since. -/
theorem Dealing.Offers.mono {id : Handle} {queued queued' : List UInt8} {before : List Dealing}
    {dealing : Dealing} (h : dealing.Offers id queued before) (hmore : queued <+: queued') :
    dealing.Offers id queued' before := by
  cases dealing with
  | wrote k bytes answers => exact fun hk hfailed => (h hk hfailed).trans hmore
  | read => trivial
  | armed => trivial

section Accounts

variable {id k : Handle} {past : List Entry} {entry : Entry}

/-- An entry writes nothing to a connection, or it is a write to it. -/
theorem bytesTo_eq_nil_or (id : Handle) (entry : Entry) :
    entry.bytesTo id = [] ∨ ∃ bytes, entry = .wrote id bytes := by
  cases entry with
  | wrote k bytes =>
    by_cases hk : k = id
    · exact Or.inr ⟨bytes, hk ▸ rfl⟩
    · exact Or.inl (if_neg hk)
  | raised => exact Or.inl rfl
  | called => exact Or.inl rfl
  | received => exact Or.inl rfl
  | writeFailed => exact Or.inl rfl
  | closed => exact Or.inl rfl

theorem bytesWritten_wrote {bytes : List UInt8} :
    bytesWritten id (.wrote id bytes :: past) = bytesWritten id past ++ bytes := by
  rw [bytesWritten, gathered, Entry.bytesTo, if_pos rfl]

theorem bytesWritten_of_nil (h : entry.bytesTo id = []) :
    bytesWritten id (entry :: past) = bytesWritten id past := gathered_cons_of_nil h

/-- A call adds to what was queued as long as the connection is read. -/
theorem bytesQueued_called (call : Outgoing String) :
    bytesQueued id (.called call :: past) = bytesQueued id past ++
      if standing id past = .active then
        (Outgoing.heardBy id [call]).flatMap LossyUtf8.encode else [] := by
  rw [bytesQueued, queued, List.flatMap_append, bytesQueued]
  split <;> rfl

/-- Nothing else does. -/
theorem bytesQueued_of_ne_active (h : standing id past ≠ .active) :
    bytesQueued id (entry :: past) = bytesQueued id past := by
  cases entry with
  | called call => rw [bytesQueued_called, if_neg h, List.append_nil]
  | raised => rfl
  | received => rfl
  | wrote => rfl
  | writeFailed => rfl
  | closed => rfl

/-- What was queued stays queued. -/
theorem bytesQueued_prefix_cons (entry : Entry) (past : List Entry) :
    bytesQueued id past <+: bytesQueued id (entry :: past) := by
  cases entry with
  | called call =>
    rw [bytesQueued_called]
    exact List.prefix_append _ _
  | raised => exact List.prefix_rfl
  | received => exact List.prefix_rfl
  | wrote => exact List.prefix_rfl
  | writeFailed => exact List.prefix_rfl
  | closed => exact List.prefix_rfl

theorem bytesQueued_prefix_append (later past : List Entry) :
    bytesQueued id past <+: bytesQueued id (later ++ past) := by
  induction later with
  | nil => exact List.prefix_rfl
  | cons entry later ih => exact ih.trans (bytesQueued_prefix_cons entry _)

/-- Nothing more is queued after a request to close the connection. -/
theorem bytesQueued_of_asked {later : List Entry}
    (h : Lawful (later ++ .called (.disconnect id) :: past)) (hseen : standing id past ≠ .unseen) :
    bytesQueued id (later ++ .called (.disconnect id) :: past) = bytesQueued id past := by
  rw [bytesQueued, queued_append_of_isOver h (isOver_of_asked hseen), queued, bytesQueued]
  simp [Outgoing.heardBy]

/-- What was written is the beginning of what was queued, until a write fails. -/
theorem bytesWritten_begins {journal : List Entry} (h : Each (Entry.Accounts id) journal)
    (hfailed : .writeFailed id ∉ journal) : bytesWritten id journal <+: bytesQueued id journal := by
  induction journal with
  | nil => exact List.nil_prefix
  | cons entry past ih =>
    obtain ⟨haccounts, hpast⟩ := h
    have hbefore : .writeFailed id ∉ past := fun hmem => hfailed (List.mem_cons_of_mem entry hmem)
    refine List.IsPrefix.trans ?_ (bytesQueued_prefix_cons entry past)
    rcases bytesTo_eq_nil_or id entry with hnil | ⟨bytes, rfl⟩
    · rw [bytesWritten_of_nil hnil]
      exact ih hpast hbefore
    · rw [bytesWritten_wrote]
      exact haccounts rfl hbefore

/-- Nothing was done for a connection that has not come. -/
theorem nothing_of_unseen {journal : List Entry} (h : Lawful journal)
    (hunseen : standing id journal = .unseen) :
    bytesWritten id journal = [] ∧ bytesQueued id journal = [] := by
  constructor
  · refine gathered_of_unseen (fun past entry hbefore hfollows => ?_) h hunseen
    rcases bytesTo_eq_nil_or id entry with hnil | ⟨bytes, rfl⟩
    · exact hnil
    · rw [Entry.Follows, hbefore] at hfollows
      cases hfollows
  · induction journal with
    | nil => rfl
    | cons entry past ih =>
      have hbefore := unseen_of_cons hunseen
      rw [bytesQueued_of_ne_active (by rw [hbefore]; decide), ih h.2 hbefore]

end Accounts

namespace Connection

/-- A burst of writes takes what the answers say, and leaves the rest unless an attempt
fails. -/
theorem flush_exact (bytes : List UInt8) (answers : List WriteAnswer) :
    (flush bytes answers).written = bytes.take (WriteAnswer.count answers) ∧
      ((flush bytes answers).failed = true ↔
        WriteAnswer.breaks answers = true ∧ WriteAnswer.count answers < bytes.length) ∧
      ((flush bytes answers).failed = false →
        (flush bytes answers).left = bytes.drop (WriteAnswer.count answers)) := by
  fun_induction flush bytes answers with
  | case1 => simp
  | case2 => simp [WriteAnswer.count, WriteAnswer.breaks]
  | case3 _ _ _ ih => exact ih
  | case4 bytes _ hbytes =>
    have hsome : 0 < bytes.length := List.length_pos_iff.mpr hbytes
    simp [WriteAnswer.count, WriteAnswer.breaks, hsome]
  | case5 bytes _ hbytes =>
    have hsome : 0 < bytes.length := List.length_pos_iff.mpr hbytes
    simp [WriteAnswer.count, WriteAnswer.breaks, hsome]
  | case6 bytes count answers _ rest ih =>
    obtain ⟨hwritten, hfailed, hleft⟩ := ih
    have hcount : WriteAnswer.count (.accepted (count + 1) :: answers) =
        count + 1 + WriteAnswer.count answers := rfl
    refine ⟨?_, ?_, fun h => ?_⟩
    · change bytes.take (count + 1) ++ rest.written = _
      rw [hwritten, hcount, ← List.take_add]
    · change rest.failed = true ↔ WriteAnswer.breaks answers = true ∧ _
      rw [hfailed, hcount, List.length_drop]
      exact and_congr_right fun _ => by omega
    · change rest.left = _
      rw [hleft h, hcount, List.drop_drop]

end Connection

namespace Multiplexer

open Relation

variable {σ ε : Type} {net : Host ε} {handler : Handler σ} {start : σ} {m m' : Multiplexer σ ε}
  {id k : Handle} {c : Connection}

/-! ## The account of a connection -/

/-- The account of a connection. -/
structure Accounted (id : Handle) (m : Multiplexer σ ε) : Prop where
  /-- What was written and what is left make up what was queued. -/
  kept : ∀ c, m.board.get? id = some c → .writeFailed id ∉ m.journal →
    bytesWritten id m.journal ++ c.outbound = bytesQueued id m.journal
  /-- So it was when something was written or the connection was closed. -/
  past : Each (Entry.Accounts id) m.journal

namespace Accounted

theorem create (id : Handle) (listen : ListenSettings) (start : σ) (host : ε) :
    Accounted id (Multiplexer.create listen start host) where
  kept c hc := by
    cases Switchboard.get?_empty.symm.trans hc
  past := trivial

/-- Other parts of the server may change. -/
theorem congr (h : Accounted id m) (hjournal : m'.journal = m.journal)
    (hboard : ∀ c', m'.board.get? id = some c' →
      ∃ c, m.board.get? id = some c ∧ c'.outbound = c.outbound) : Accounted id m' where
  kept c' hc' := by
    obtain ⟨c, hc, hsame⟩ := hboard c' hc'
    rw [hjournal, hsame]
    exact h.kept c hc
  past := hjournal ▸ h.past

/-- Any connection may change but for its output. -/
theorem put (h : Accounted id m) (hc : m.board.get? k = some c) {c' : Connection}
    (hsame : c'.outbound = c.outbound) : Accounted id { m with board := m.board.put k c' } := by
  refine h.congr rfl fun c'' hc'' => ?_
  change (m.board.put k c').get? id = some c'' at hc''
  rw [Switchboard.get?_put] at hc''
  split at hc''
  · rename_i hk
    subst hk
    cases hc''
    exact ⟨c, hc, hsame⟩
  · exact ⟨c'', hc'', rfl⟩

/-- Something is noted that is neither a call nor a write. -/
theorem note {entry : Entry} (h : Accounted id m) (hbytes : entry.bytesTo id = [])
    (hqueued : bytesQueued id (entry :: m.journal) = bytesQueued id m.journal)
    (haccounts : entry.Accounts id m.journal) : Accounted id (m.record entry) where
  kept c hc hfailed := by
    change bytesWritten id (entry :: m.journal) ++ _ = bytesQueued id (entry :: m.journal)
    rw [bytesWritten_of_nil hbytes, hqueued]
    exact h.kept c hc fun hmem => hfailed (List.mem_cons_of_mem entry hmem)
  past := ⟨haccounts, h.past⟩

/-- A call is made. -/
theorem call (h : Accounted id m) (hm : Consistent handler start m) (call : Outgoing String) :
    Accounted id (m.call call) where
  kept c' hc' hfailed := by
    change (m.board.carryOut call).get? id = some c' at hc'
    rw [Switchboard.get?_carryOut] at hc'
    obtain ⟨c, hc, rfl⟩ := Option.map_eq_some_iff.mp hc'
    have hbefore : .writeFailed id ∉ m.journal := fun hmem =>
      hfailed (List.mem_cons_of_mem (Entry.called call) hmem)
    change bytesWritten id (.called call :: m.journal) ++ _ =
      bytesQueued id (.called call :: m.journal)
    rw [bytesWritten_of_nil rfl, bytesQueued_called, Connection.outbound_actOn, ← List.append_assoc,
      h.kept c hc hbefore]
    simp only [hm.reads_iff hc]
  past := ⟨trivial, h.past⟩

/-- An event is noted. -/
theorem noted (h : Accounted id m) (event : Event) :
    Accounted id (Multiplexer.noted handler m event) := by
  have hstate : Accounted id
      { m with state := (handler.react m.state m.board.count event).1 } :=
    h.congr rfl fun c hc => ⟨c, hc, rfl⟩
  exact hstate.note rfl rfl trivial

/-- An event is raised after which the table is as the journal tells; so it stays while the
calls are made. -/
theorem raise {event : Event} (h : Accounted id m)
    (hnoted : Consistent handler start (Multiplexer.noted handler m event)) :
    Accounted id (Multiplexer.raise handler m event) := by
  refine (raise_keeps (P := fun m => Consistent handler start m ∧ Accounted id m)
    ⟨hnoted, h.noted event⟩ ?_).2
  rintro m call ⟨hm, haccounted⟩
  exact ⟨hm.call call, haccounted.call hm call⟩

/-- A connection comes for which nothing was done. -/
theorem letIn (h : Accounted id m) (hm : Consistent handler start m) :
    Accounted id
      { m with nextHandle := m.nextHandle + 1,
               board := m.board.put m.nextHandle Connection.fresh } where
  kept c hc := by
    change (m.board.put m.nextHandle Connection.fresh).get? id = some c at hc
    rw [Switchboard.get?_put] at hc
    split at hc
    · rename_i hid
      subst hid
      cases hc
      obtain ⟨hwritten, hqueued⟩ :=
        nothing_of_unseen hm.lawful (hm.unseen m.nextHandle (Nat.le_refl _))
      intro _
      rw [hwritten, hqueued]
      rfl
    · exact h.kept c hc
  past := h.past

/-- A connection leaves with what is left of its output. -/
theorem remove (h : Accounted id m) (hc : m.board.get? k = some c) (cause : Closing) :
    Accounted id ({ m with board := m.board.remove k }.record (.closed k cause c.outbound)) := by
  have hremoved : Accounted id { m with board := m.board.remove k } := by
    refine h.congr rfl fun c' hc' => ⟨c', ?_, rfl⟩
    change (m.board.remove k).get? id = some c' at hc'
    rw [Switchboard.get?_remove] at hc'
    split at hc'
    · cases hc'
    · exact hc'
  refine hremoved.note rfl rfl ?_
  rintro rfl hfailed
  exact h.kept c hc hfailed

/-- Output is written. -/
theorem written (h : Accounted id m) (hc : m.board.get? k = some c) :
    Accounted id (m.written net k c) := by
  let flushed := m.flushed net k c
  let count := WriteAnswer.count (net.write m.host k c.outbound).1
  obtain ⟨hwritten, -, hleft⟩ : flushed.written = c.outbound.take count ∧ _ ∧
      (flushed.failed = false → flushed.left = c.outbound.drop count) :=
    Connection.flush_exact c.outbound (net.write m.host k c.outbound).1
  have hbegins : flushed.written <+: c.outbound := hwritten ▸ List.take_prefix _ _
  have haccounts : (Entry.wrote k flushed.written).Accounts id m.journal := by
    rintro rfl hfailed
    rw [← h.kept c hc hfailed]
    exact (List.prefix_append_right_inj _).mpr hbegins
  by_cases hid : k = id
  · subst hid
    -- here it matters whether the writes failed, so that both ends are looked at by themselves
    unfold Multiplexer.written
    split
    · exact ⟨fun _ _ hnever => absurd List.mem_cons_self hnever, trivial, haccounts, h.past⟩
    · rename_i hfailed
      refine ⟨fun c' hc' hnever => ?_, haccounts, h.past⟩
      have hafter : some { c with outbound := flushed.left } = some c' :=
        (Switchboard.get?_put_self _ _ _).symm.trans hc'
      cases hafter
      have hbefore : .writeFailed k ∉ m.journal := fun hmem =>
        hnever (List.mem_cons_of_mem (Entry.wrote k flushed.written) hmem)
      change bytesWritten k (.wrote k flushed.written :: m.journal) ++ flushed.left =
        bytesQueued k m.journal
      rw [bytesWritten_wrote, List.append_assoc, hwritten, hleft (Bool.eq_false_iff.mpr hfailed),
        List.take_append_drop]
      exact h.kept c hc hbefore
  · -- the account of another connection shows nothing of this
    have hput : Accounted id
        { m with host := (net.write m.host k c.outbound).2,
                 board := m.board.put k { c with outbound := flushed.left } } := by
      refine h.congr rfl fun c' hc' => ⟨c', ?_, rfl⟩
      exact (Switchboard.get?_put.trans (if_neg hid)).symm.trans hc'
    exact written_keeps (hput.note (if_neg hid) rfl haccounts) fun hwrote =>
      hwrote.note rfl rfl trivial

/-- Everything is closed at once. -/
theorem deactivate (h : Accounted id m) : Accounted id m.deactivate := by
  refine deactivate_keeps (fun hc hm => hm.remove hc .deactivated) (fun _ hm => ?_) h
  refine hm.congr rfl fun c hc => ?_
  cases Switchboard.get?_empty.symm.trans hc

end Accounted

/-- Every action keeps the account. -/
theorem Action.accounted (h : Action net handler m m') (hm : Consistent handler start m)
    (haccounted : Accounted id m) : Accounted id m' := by
  cases h with
  | asked => exact haccounted.congr rfl fun c hc => ⟨c, hc, rfl⟩
  | read => exact haccounted.congr rfl fun c hc => ⟨c, hc, rfl⟩
  | listened => exact haccounted.congr rfl fun c hc => ⟨c, hc, rfl⟩
  | deactivated => exact haccounted.deactivate
  | verbosity => exact haccounted.congr rfl fun c hc => ⟨c, hc, rfl⟩
  | call call => exact haccounted.call hm call
  | admitted => exact (haccounted.letIn hm).raise hm.noted_connect
  | skipped => exact haccounted.congr rfl fun c hc => ⟨c, hc, rfl⟩
  | @received k c bytes hc =>
    have hput : Accounted id { m with board := m.board.put k (c.receive bytes).1 } :=
      haccounted.put hc rfl
    exact hput.note rfl rfl trivial
  | line text haccepts => exact haccounted.raise (hm.noted_line text haccepts)
  | wrote hc => exact haccounted.written hc
  | @armed k c hc =>
    have hput : Accounted id
        { m with board := m.board.put k { c with watchesWrites := c.hasOutput } } :=
      haccounted.put hc rfl
    exact hput.congr rfl fun c hc => ⟨c, hc, rfl⟩
  | marked k =>
    refine haccounted.congr rfl fun c hc => ⟨c, ?_, rfl⟩
    exact Switchboard.get?_mark.symm.trans hc
  | taken => exact haccounted.congr rfl fun c hc => ⟨c, hc, rfl⟩
  | @closed k c cause hc hmay =>
    rw [close_of_get? hc]
    refine (haccounted.remove hc cause).raise (hm.noted_drop hc ?_)
    rintro rfl
    exact hmay

/-! ## The account of the system -/

section Notes

variable {past : List Entry} {flushed : Connection.Flushed}

theorem bytesWritten_notesOf :
    bytesWritten id (notesOf id flushed ++ past) = bytesWritten id past ++ flushed.written := by
  unfold notesOf
  split
  · exact (bytesWritten_of_nil rfl).trans bytesWritten_wrote
  · exact bytesWritten_wrote

theorem bytesQueued_notesOf : bytesQueued id (notesOf k flushed ++ past) = bytesQueued id past := by
  unfold notesOf
  split <;> rfl

theorem writeFailed_mem_notesOf : .writeFailed id ∈ notesOf id flushed ++ past ↔
    flushed.failed = true ∨ .writeFailed id ∈ past := by
  unfold notesOf
  split
  · rename_i hfailed
    simp [hfailed]
  · rename_i hfailed
    simp [hfailed]

end Notes

section Booked

variable {m m' : Multiplexer σ (ε × List Dealing)}

/-- The server's account of a connection agrees with the one of the system. -/
structure Booked (id : Handle) (m : Multiplexer σ (ε × List Dealing)) : Prop where
  /-- What was noted as written is what the system has taken. -/
  taken : bytesWritten id m.journal = bytesTaken id m.host.2
  /-- That a write failed was noted when it did. -/
  broke : .writeFailed id ∈ m.journal ↔ writeBroke id m.host.2 = true
  /-- The system was always given the rest of what was queued. -/
  offered : Each (Dealing.Offers id (bytesQueued id m.journal)) m.host.2

namespace Booked

/-- Nothing is written to the connection. -/
theorem quiet (h : Booked id m) (entries : List Entry) (log : List Dealing)
    (hjournal : m'.journal = entries ++ m.journal)
    (hentries : ∀ entry ∈ entries, entry.bytesTo id = [] ∧ entry ≠ .writeFailed id)
    (hlog : m'.host.2 = log ++ m.host.2)
    (hothers : ∀ dealing ∈ log, ∀ bytes answers, dealing ≠ .wrote id bytes answers) :
    Booked id m' := by
  have hnothing : ∀ dealing ∈ log, dealing.bytesTo id = [] ∧ dealing.broke id = false ∧
      ∀ queued before, dealing.Offers id queued before := by
    intro dealing hmem
    have hother := hothers dealing hmem
    cases dealing with
    | wrote k bytes answers =>
      have hk : k ≠ id := fun hk => hother bytes answers (hk ▸ rfl)
      exact ⟨if_neg hk, by simp [Dealing.broke, hk], fun _ _ he => absurd he hk⟩
    | read => exact ⟨rfl, rfl, fun _ _ => trivial⟩
    | armed => exact ⟨rfl, rfl, fun _ _ => trivial⟩
  have hqueued : bytesQueued id m.journal <+: bytesQueued id m'.journal := by
    rw [hjournal]
    exact bytesQueued_prefix_append entries m.journal
  refine ⟨?_, ?_, ?_⟩
  · rw [hjournal, hlog, bytesWritten, bytesTaken,
      gathered_append_of_nil fun entry hmem => (hentries entry hmem).1,
      gathered_append_of_nil fun dealing hmem => (hnothing dealing hmem).1]
    exact h.taken
  · rw [hjournal, hlog, List.mem_append, or_iff_right fun hmem => (hentries _ hmem).2 rfl, h.broke,
      writeBroke, writeBroke, List.any_append, Bool.or_eq_true, or_iff_right]
    rw [List.any_eq_true]
    rintro ⟨dealing, hmem, hbroke⟩
    cases hbroke.symm.trans (hnothing dealing hmem).2.1
  · rw [hlog]
    refine (h.offered.mono fun before dealing hoffers => ?_).append
      fun dealing hmem before => (hnothing dealing hmem).2.2 _ before
    exact hoffers.mono hqueued

/-- Output of a connection is written. -/
theorem wrote {answers : List WriteAnswer} (h : Booked id m) (haccounted : Accounted id m)
    (hc : m.board.get? k = some c)
    (hjournal : m'.journal = notesOf k (Connection.flush c.outbound answers) ++ m.journal)
    (hlog : m'.host.2 = .wrote k c.outbound answers :: m.host.2) : Booked id m' := by
  by_cases hk : k = id
  · subst hk
    obtain ⟨hwritten, hfailed, -⟩ := Connection.flush_exact c.outbound answers
    have hbefore : writeBroke k m.host.2 = false →
        bytesTaken k m.host.2 ++ c.outbound = bytesQueued k m.journal := by
      intro hbroke
      rw [← h.taken]
      refine haccounted.kept c hc fun hmem => ?_
      cases hbroke.symm.trans (h.broke.mp hmem)
    refine ⟨?_, ?_, ?_⟩
    · rw [hjournal, bytesWritten_notesOf, hlog, hwritten, h.taken, bytesTaken, gathered,
        Dealing.bytesTo, if_pos rfl]
    · rw [hjournal, writeFailed_mem_notesOf, hlog, writeBroke, List.any_cons, Bool.or_eq_true,
        h.broke, hfailed]
      simp [Dealing.broke, writeBroke]
    · rw [hjournal, bytesQueued_notesOf, hlog]
      exact ⟨fun _ hbroke => hbefore hbroke ▸ List.prefix_rfl, h.offered⟩
  · refine h.quiet _ [_] hjournal (fun entry hmem => ?_) hlog ?_
    · rcases mem_notesOf hmem with rfl | rfl
      · refine ⟨if_neg hk, ?_⟩
        rintro ⟨⟩
      · exact ⟨rfl, fun he => hk (Entry.writeFailed.inj he)⟩
    · rintro dealing hmem bytes answers' rfl
      cases List.mem_singleton.mp hmem
      exact hk rfl

end Booked

/-- Every action keeps the two accounts in agreement. -/
theorem Action.booked (h : Action net.recorded handler m m') (haccounted : Accounted id m)
    (hbooked : Booked id m) : Booked id m' := by
  rcases h.traced with hunread | ⟨k, answers, hjournal, hlog⟩ | ⟨k, bytes, hjournal, hlog⟩
  · cases hunread with
    | still entries log hjournal hstill hlog hwatch =>
      refine hbooked.quiet entries log hjournal (fun entry hmem => ?_) hlog ?_
      · have hentry := hstill entry hmem
        cases entry with
        | raised => exact ⟨rfl, nofun⟩
        | called => exact ⟨rfl, nofun⟩
        | closed => exact ⟨rfl, nofun⟩
        | received => exact hentry.elim
        | wrote => exact hentry.elim
        | writeFailed => exact hentry.elim
      · rintro dealing hmem bytes answers rfl
        obtain ⟨_, _, _, he⟩ := hwatch _ hmem
        cases he
    | wrote answers hc hjournal hlog => exact hbooked.wrote haccounted hc hjournal hlog
  · refine hbooked.quiet [] [_] hjournal nofun hlog ?_
    rintro dealing hmem bytes answers' rfl
    cases List.mem_singleton.mp hmem
  · refine hbooked.quiet [_] [] hjournal (fun entry hmem => ?_) hlog nofun
    rw [List.mem_singleton.mp hmem]
    exact ⟨rfl, nofun⟩

/-- Throughout every run the two accounts are right and agree. -/
theorem recordedRun_booked (net : Host ε) (handler : Handler σ) (listen : ListenSettings)
    (start : σ) (host : ε) (demands : List (Demand ε)) (id : Handle) :
    Accounted id (recordedRun net handler listen start host demands) ∧
      Booked id (recordedRun net handler listen start host demands) := by
  refine (recordedRun_keeps net handler listen start host demands (P := fun m =>
    Consistent handler start m ∧ Accounted id m ∧ Booked id m) ?_ ?_ ?_).2
  · rintro m m' haction ⟨hm, haccounted, hbooked⟩
    exact ⟨haction.consistent hm, haction.accounted hm haccounted,
      haction.booked haccounted hbooked⟩
  · rintro m state ⟨hm, haccounted, hbooked⟩
    exact ⟨hm.congr rfl rfl (Nat.le_refl _) fun _ => rfl,
      haccounted.congr rfl fun c hc => ⟨c, hc, rfl⟩,
      hbooked.taken, hbooked.broke, hbooked.offered⟩
  · exact ⟨Consistent.create listen start (host, []), Accounted.create id listen start (host, []),
      rfl, by simp [Multiplexer.create, writeBroke], trivial⟩

end Booked

/-! ## When a connection is let go -/

/-- A connection that was to be closed is closed when nothing is left of its output, or
when a write to it failed, when the poller can tell that it has ended or refuses to watch
it, or by deactivation. This is said of the closings after some point. -/
def Releases (net : Host ε) (before past : List Entry) : Entry → Prop
  | .closed id cause unsent => before <:+ past → standing id past = .closing →
      unsent = [] ∨ .writeFailed id ∈ past ∨ CanHangUp net id ∨
        (∃ host writes, (net.arm host id writes).1 = false) ∨ cause = .deactivated
  | _ => True

/-- Closings up to that point do not matter. -/
theorem releases_start (net : Host ε) (before : List Entry) :
    Each (Releases net before) before := by
  refine each_of_forall fun later entry past hbefore => ?_
  cases entry with
  | closed =>
    intro hsuffix
    have hlength := hsuffix.length_le
    rw [hbefore, List.length_append, List.length_cons] at hlength
    omega
  | raised => trivial
  | called => trivial
  | received => trivial
  | wrote => trivial
  | writeFailed => trivial

/-- Every action lets connections go as they may be let go. -/
theorem Action.releases {before : List Entry} (h : Action net handler m m')
    (hm : Consistent handler start m) (hreleases : Each (Releases net before) m.journal) :
    Each (Releases net before) m'.journal := by
  have hraise : ∀ (m : Multiplexer σ ε) (event : Event), Each (Releases net before) m.journal →
      Each (Releases net before) (raise handler m event).journal := fun m event hm =>
    raise_keeps (P := fun m => Each (Releases net before) m.journal) ⟨trivial, hm⟩
      fun _ hm => ⟨trivial, hm⟩
  cases h with
  | asked => exact hreleases
  | read => exact hreleases
  | listened => exact hreleases
  | deactivated =>
    refine deactivate_keeps (P := fun m => Each (Releases net before) m.journal)
      (fun _ hm => ⟨fun _ _ => ?_, hm⟩) (fun _ hm => hm) hreleases
    exact Or.inr (Or.inr (Or.inr (Or.inr rfl)))
  | verbosity => exact hreleases
  | call => exact ⟨trivial, hreleases⟩
  | admitted => exact hraise _ _ hreleases
  | skipped => exact hreleases
  | received => exact ⟨trivial, hreleases⟩
  | line => exact hraise _ _ hreleases
  | wrote =>
    exact written_keeps (P := fun m => Each (Releases net before) m.journal) ⟨trivial, hreleases⟩
      fun hwrote => ⟨trivial, hwrote⟩
  | armed => exact hreleases
  | marked => exact hreleases
  | taken => exact hreleases
  | @closed k c cause hc hmay =>
    rw [close_of_get? hc]
    refine hraise _ _ ⟨fun _ hclosing => ?_, hreleases⟩
    cases cause with
    | finished => exact Or.inl hmay.2
    | readEnded =>
      -- what has ended is closed only while the connection is read
      have hactive : standing k m.journal = .active := (hm.reads_iff hc).mp hmay
      cases hclosing.symm.trans hactive
    | hungUp => exact Or.inr (Or.inr (Or.inl hmay))
    | writeFailed => exact Or.inr (Or.inl (List.mem_of_mem_head? hmay))
    | unwatched => exact Or.inr (Or.inr (Or.inr (Or.inl hmay)))
    | deactivated => exact hmay.elim

/-- So does every demand, where the poller can tell only what it tells in the course of it. -/
theorem meet_releases (demand : Demand ε) (hm : Consistent handler start m) :
    Each (Releases (net.telling (demand.told net m)) m.journal)
      (meet net handler m demand).journal := by
  obtain ⟨polled, hactions⟩ : ∃ host,
      ReflTransGen (Action (net.telling (demand.told net m)) handler)
        { m with host := host } (meet net handler m demand) := meet_actions_telling m demand
  have hpolled : Consistent handler start { m with host := polled } :=
    hm.congr rfl rfl (Nat.le_refl _) fun _ => rfl
  refine (keeps_of_steps (P := fun m' => Consistent handler start m' ∧
    Each (Releases (net.telling (demand.told net m)) m.journal) m'.journal) ?_
    hactions ⟨hpolled, releases_start _ m.journal⟩).2
  rintro m₁ m₂ haction ⟨hm₁, heach⟩
  exact ⟨haction.consistent hm₁, haction.releases hm₁ heach⟩

/-- It tells of an end in a wait only. -/
theorem hungUp_of_telling {demand : Demand ε}
    (h : CanHangUp (net.telling (demand.told net m)) id) :
    ∃ sockets socket, demand = .wait ∧ (net.poll m.host).1 = .ready sockets ∧
      socket ∈ sockets ∧ socket.id = id ∧ socket.hangup = true := by
  obtain ⟨state, sockets, socket, htold, hsocket⟩ := h
  cases demand with
  | wait => exact ⟨sockets, socket, rfl, htold, hsocket⟩
  | activate => cases htold
  | deactivate => cases htold
  | setVerbosity => cases htold
  | call => cases htold
  | meanwhile => cases htold

/-- Output is delivered, in every run of the server, for every handler and every host. By its own
records, the system was given what was queued for a connection, in the order of the calls, and
has taken all but what is left, until a write fails. A wait gives it what there is room for.
Nothing is queued after a request to close, and the connection is closed when nothing is left. -/
theorem output_delivered (net : Host ε) (handler : Handler σ) (listen : ListenSettings) (start : σ)
    (host : ε) (demands : List (Demand ε)) (id : Handle) :
    let m := run net handler (create listen start host) demands
    let log := dealings net handler listen start host demands
    (m.state = handler.after start m.journal ∧ handler.Answered start m.journal ∧
      ∀ calls, (calls.map .called).reverse ++ m.journal <:+
        (meet net handler m (.call calls)).journal) ∧
    (recordedRun net handler listen start host demands).onHost Prod.fst = m ∧
    (∀ c, m.board.get? id = some c → writeBroke id log = false →
      bytesTaken id log ++ c.outbound = bytesQueued id m.journal) ∧
    (∀ c, HasRoom net id m → m.board.get? id = some c → c.outbound ≠ [] →
      SomeSince (Dealing.Gives id c.outbound) log
          (dealings net handler listen start host (demands ++ [.wait])) ∨
        SomeSince (Entry.LeavesUnsent id c.outbound) m.journal
          (run net handler (create listen start host) (demands ++ [.wait])).journal) ∧
    (∀ later bytes answers before, log = later ++ .wrote id bytes answers :: before →
      writeBroke id before = false → bytesTaken id before ++ bytes <+: bytesQueued id m.journal) ∧
    (bytesWritten id m.journal = bytesTaken id log ∧
      (.writeFailed id ∈ m.journal ↔ writeBroke id log = true)) ∧
    (∀ later past, m.journal = later ++ past → .writeFailed id ∉ past →
      bytesWritten id past <+: bytesQueued id past) ∧
    (∀ later cause unsent past, m.journal = later ++ .closed id cause unsent :: past →
      .writeFailed id ∉ past → bytesWritten id past ++ unsent = bytesQueued id past) ∧
    (∀ later past, m.journal = later ++ .called (.disconnect id) :: past →
      standing id past ≠ .unseen → bytesQueued id m.journal = bytesQueued id past) ∧
    (NeverRefuses net id → ∀ (demand : Demand ε) later cause unsent past,
      (meet net handler m demand).journal = later ++ .closed id cause unsent :: past →
        m.journal <:+ past → standing id past = .closing →
        unsent = [] ∨ .writeFailed id ∈ past ∨
          (∃ sockets socket, demand = .wait ∧ (net.poll m.host).1 = .ready sockets ∧
            socket ∈ sockets ∧ socket.id = id ∧ socket.hangup = true) ∨
          cause = .deactivated) := by
  intro m log
  have hm : Consistent handler start m := run_consistent net handler listen start host demands
  have hanswered : handler.Answered start m.journal :=
    run_answered net handler listen start host demands
  have hrecorded := recordedRun_onHost net handler listen start host demands
  have hboard : (recordedRun net handler listen start host demands).board = m.board :=
    congrArg board hrecorded
  have hjournal : (recordedRun net handler listen start host demands).journal = m.journal :=
    congrArg journal hrecorded
  obtain ⟨haccounted, htaken, hbroke, hoffered⟩ :=
    recordedRun_booked net handler listen start host demands id
  obtain ⟨hkept, hpast⟩ := haccounted
  rw [hjournal] at htaken hbroke hoffered hpast
  rw [hjournal, hboard] at hkept
  refine ⟨⟨hm.state, hanswered, fun calls => callAll_grows net handler m calls⟩, hrecorded,
    fun c hc hwhole => ?_,
    fun c hroom hc hsome => run_writes net handler listen start host demands id hroom hc hsome,
    fun later bytes answers before hlog => ?_, ⟨htaken, hbroke⟩, ?_, ?_, ?_, ?_⟩
  · have hnever : .writeFailed id ∉ m.journal := fun hmem => by
      cases hwhole.symm.trans (hbroke.mp hmem)
    have hthis := hkept c hc hnever
    rwa [htaken] at hthis
  · exact hoffered.at hlog rfl
  · intro later past hjournal hnever
    rw [hjournal] at hpast
    exact bytesWritten_begins hpast.of_append hnever
  · intro later cause unsent past hjournal hnever
    exact hpast.at hjournal rfl hnever
  · intro later past hjournal hseen
    have hlawful := hm.lawful
    rw [hjournal] at hlawful ⊢
    exact bytesQueued_of_asked hlawful hseen
  · intro haccepts demand later cause unsent past hjournal hafter hclosing
    rcases (meet_releases demand hm).at hjournal hafter hclosing with
      hempty | hfailed | hhangup | ⟨state, writes, hrefused⟩ | hcause
    · exact Or.inl hempty
    · exact Or.inr (Or.inl hfailed)
    · exact Or.inr (Or.inr (Or.inl (hungUp_of_telling hhangup)))
    · cases (haccepts state writes).symm.trans hrefused
    · exact Or.inr (Or.inr (Or.inr hcause))

/-- A system to which one client comes, and which takes three bytes of output at a time. -/
def sluggish : Host Nat where
  bind waits wanted := (.ok wanted, waits)
  poll waits :=
    (.ready [if waits = 0 then ⟨listenerHandle, true, false, false⟩ else ⟨1, false, true, false⟩],
      waits + 1)
  accept waits := ([.arrived true], waits)
  read waits _ := ([], waits)
  write waits _ _ := ([.interrupted, .accepted 3], waits)
  arm waits _ _ := (true, waits)

/-- Something is sent to the client, and the system takes the beginning of it. -/
def congested : List (Demand Nat) := [.activate, .wait, .call [.send 1 "hello there"], .wait]

/-- What it did not take at once is given to it again in the next wait. It goes out later, even if
by then the client is to be closed, and something that is sent after that request does not. -/
theorem output_delivered_congested :
    let server := create ⟨6667, ""⟩ () 0
    let before := run sluggish Handler.silent server congested
    let log := dealings sluggish Handler.silent ⟨6667, ""⟩ () 0 congested
    let later := congested ++ [.call [.disconnect 1, .send 1 "late"], .wait]
    let after := run sluggish Handler.silent server later
    (before.board.get? 1).map (·.outbound) = some (LossyUtf8.encode "lo there") ∧
      bytesTaken 1 log = LossyUtf8.encode "hel" ∧
      SomeSince (Dealing.Gives 1 (LossyUtf8.encode "lo there")) log
        (dealings sluggish Handler.silent ⟨6667, ""⟩ () 0 (congested ++ [.wait])) ∧
      (after.board.get? 1).isSome = false ∧
      bytesTaken 1 (dealings sluggish Handler.silent ⟨6667, ""⟩ () 0 later) =
        LossyUtf8.encode "hello there" := by
  intro server before log later after
  have hleft : (before.board.get? 1).map (·.outbound) = some (LossyUtf8.encode "lo there") := by
    decide +kernel
  obtain ⟨c, hc, hout⟩ := Option.map_eq_some_iff.mp hleft
  obtain ⟨-, -, hkept, hgiven, -⟩ :=
    output_delivered sluggish Handler.silent ⟨6667, ""⟩ () 0 congested 1
  have htaken : bytesTaken 1 log ++ c.outbound = bytesQueued 1 before.journal :=
    hkept c hc (by decide +kernel)
  have hqueued : bytesQueued 1 before.journal =
      LossyUtf8.encode "hel" ++ LossyUtf8.encode "lo there" := by decide +kernel
  have hroom : HasRoom sluggish 1 before :=
    ⟨by decide, by decide +kernel, _, rfl, _, List.mem_singleton_self _, by decide +kernel,
      by decide +kernel, by decide +kernel⟩
  have hopen : ∀ entry ∈ (run sluggish Handler.silent server (congested ++ [.wait])).journal,
      ¬entry.LeavesUnsent 1 (LossyUtf8.encode "lo there") := by decide +kernel
  have hagain := hgiven c hroom hc (hout ▸ by decide +kernel)
  obtain ⟨-, -, -, -, -, ⟨hwritten, -⟩, -⟩ :=
    output_delivered sluggish Handler.silent ⟨6667, ""⟩ () 0 later 1
  have hall : bytesWritten 1 after.journal = LossyUtf8.encode "hello there" := by decide +kernel
  rw [hout, hqueued] at htaken
  rw [hout] at hagain
  refine ⟨hleft, List.append_cancel_right htaken, hagain.resolve_right ?_, by decide +kernel,
    hwritten.symm.trans hall⟩
  rintro ⟨newer, hnewer, entry, hmem, hleaves⟩
  refine hopen entry ?_ hleaves
  rw [hnewer]
  exact List.mem_append_left _ hmem

end Multiplexer

end RelayChat
