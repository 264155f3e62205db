import RelayChat.Proofs.LineSegments
import RelayChat.Proofs.ServerRuns

/-!
# Lines that are owed

The bytes of a connection are cut into lines as they arrive, and its lines are handed on
one by one while whatever the handler asks for is done. `Owing` says what is still owed of
one connection: the lines that were handed on, a backlog of lines that were cut off but not
handed on yet, and what its framer has still to find make up all lines of the bytes
received, whatever other bytes may come. The backlog is empty between stages, so that a
connection that was not asked to be closed is owed nothing then (`Stage.owing`), and so in
every run (`run_owing`).
-/

namespace RelayChat

open Framer

/-! ## What is read off the journal -/

/-- The bytes of an entry that were read from a connection. -/
def Entry.bytesFrom (id : Handle) : Entry → List UInt8
  | .received k bytes => if k = id then bytes else []
  | _ => []

/-- The line of a connection that an entry hands on. -/
def Entry.lineOf (id : Handle) : Entry → List String
  | .raised (.line k text) _ => if k = id then [text] else []
  | _ => []

/-- The bytes received from a connection, in order. -/
def bytesReceived (id : Handle) : List Entry → List UInt8 := gathered (Entry.bytesFrom id)

/-- The lines of a connection that were handed on, in order. -/
def linesHandedOn (id : Handle) : List Entry → List String := gathered (Entry.lineOf id)

/-- All lines of the bytes received from a connection. -/
def linesReceived (id : Handle) (journal : List Entry) : List String :=
  expectedLines standardLimit (bytesReceived id journal)

/-- A connection was asked to be closed while it was read. -/
def Asked (id : Handle) (journal : List Entry) : Prop :=
  ∃ later past, journal = later ++ .called (.disconnect id) :: past ∧ standing id past = .active

/-- A line that is handed on is the next one of those received. -/
def Entry.Begins (id : Handle) (past : List Entry) : Entry → Prop
  | .raised (.line k text) _ => k = id → linesHandedOn id past ++ [text] <+: linesReceived id past
  | _ => True

/-- An entry has nothing to do with what a connection sends. -/
def Entry.Silent (id : Handle) (entry : Entry) : Prop :=
  entry.bytesFrom id = [] ∧ entry.lineOf id = []

section Input

variable {id : Handle} {later past journal : List Entry} {entry : Entry}

theorem silent_or (id : Handle) (entry : Entry) :
    entry.Silent id ∨ (∃ bytes, entry = .received id bytes) ∨
      ∃ text count, entry = .raised (.line id text) count := by
  cases entry with
  | raised event count =>
    cases event with
    | connect => exact Or.inl ⟨rfl, rfl⟩
    | line k text =>
      by_cases hk : k = id
      · exact Or.inr (Or.inr ⟨text, count, hk ▸ rfl⟩)
      · exact Or.inl ⟨rfl, if_neg hk⟩
    | drop => exact Or.inl ⟨rfl, rfl⟩
  | received k bytes =>
    by_cases hk : k = id
    · exact Or.inr (Or.inl ⟨bytes, hk ▸ rfl⟩)
    · exact Or.inl ⟨if_neg hk, rfl⟩
  | called => exact Or.inl ⟨rfl, rfl⟩
  | wrote => exact Or.inl ⟨rfl, rfl⟩
  | writeFailed => exact Or.inl ⟨rfl, rfl⟩
  | closed => exact Or.inl ⟨rfl, rfl⟩

namespace Entry.Silent

variable (h : entry.Silent id)

include h

theorem bytesReceived : bytesReceived id (entry :: past) = RelayChat.bytesReceived id past :=
  gathered_cons_of_nil h.1

theorem linesHandedOn : linesHandedOn id (entry :: past) = RelayChat.linesHandedOn id past :=
  gathered_cons_of_nil h.2

theorem linesReceived : linesReceived id (entry :: past) = RelayChat.linesReceived id past := by
  rw [RelayChat.linesReceived, h.bytesReceived, RelayChat.linesReceived]

theorem begins : entry.Begins id past := by
  cases entry with
  | raised event count =>
    cases event with
    | connect => trivial
    | line k text =>
      rintro rfl
      have hnil : [text] = [] := (if_pos rfl).symm.trans h.2
      cases hnil
    | drop => trivial
  | called => trivial
  | received => trivial
  | wrote => trivial
  | writeFailed => trivial
  | closed => trivial

end Entry.Silent

theorem bytesReceived_received {bytes : List UInt8} :
    bytesReceived id (.received id bytes :: past) = bytesReceived id past ++ bytes := by
  rw [bytesReceived, gathered, Entry.bytesFrom, if_pos rfl]

theorem linesHandedOn_line {text : String} {count : Nat} :
    linesHandedOn id (.raised (.line id text) count :: past) = linesHandedOn id past ++ [text] := by
  rw [linesHandedOn, gathered, Entry.lineOf, if_pos rfl]

/-- The lines handed on are the beginning of those received. -/
theorem linesHandedOn_begins (h : Each (Entry.Begins id) journal) :
    linesHandedOn id journal <+: linesReceived id journal := by
  induction journal with
  | nil => exact List.nil_prefix
  | cons entry past ih =>
    obtain ⟨hbegins, hpast⟩ := h
    rcases silent_or id entry with hsilent | ⟨bytes, rfl⟩ | ⟨text, count, rfl⟩
    · rw [hsilent.linesHandedOn, hsilent.linesReceived]
      exact ih hpast
    · -- bytes alone can only add lines
      have hlines : linesHandedOn id (.received id bytes :: past) = linesHandedOn id past :=
        gathered_cons_of_nil rfl
      rw [hlines, linesReceived, bytesReceived_received]
      exact (ih hpast).trans (expectedLines_begins standardLimit _ bytes)
    · have hbytes : bytesReceived id (.raised (.line id text) count :: past) =
          bytesReceived id past := gathered_cons_of_nil rfl
      rw [linesHandedOn_line, linesReceived, hbytes]
      exact hbegins rfl

/-- Nothing came from a connection that has not come. -/
theorem silence_of_unseen (h : Lawful journal) (hunseen : standing id journal = .unseen) :
    bytesReceived id journal = [] ∧ linesHandedOn id journal = [] := by
  have hnothing : ∀ (past : List Entry) (entry : Entry), standing id past = .unseen →
      entry.Follows past → entry.Silent id := by
    intro past entry hbefore hfollows
    rcases silent_or id entry with hsilent | ⟨bytes, rfl⟩ | ⟨text, count, rfl⟩
    · exact hsilent
    · cases hbefore.symm.trans hfollows
    · cases hbefore.symm.trans hfollows
  constructor
  · exact gathered_of_unseen (fun past entry hb hf => (hnothing past entry hb hf).1) h hunseen
  · exact gathered_of_unseen (fun past entry hb hf => (hnothing past entry hb hf).2) h hunseen

theorem Asked.append (h : Asked id past) (later : List Entry) : Asked id (later ++ past) := by
  obtain ⟨after, before, rfl, hactive⟩ := h
  exact ⟨later ++ after, before, (List.append_assoc later after _).symm, hactive⟩

/-- A connection is read, or it was asked to be closed. -/
def ReadOrAsked (id : Handle) (journal : List Entry) : Prop :=
  standing id journal = .active ∨ Asked id journal

/-- So it stays unless the connection is closed while it is read. -/
theorem ReadOrAsked.cons (h : ReadOrAsked id past)
    (hclosed : ∀ cause unsent, entry = .closed id cause unsent → standing id past ≠ .active) :
    ReadOrAsked id (entry :: past) := by
  rcases h with hactive | hasked
  · cases entry with
    | raised event count =>
      cases event with
      | connect k =>
        rw [ReadOrAsked, standing_connect]
        split
        · exact Or.inl rfl
        · exact Or.inl hactive
      | line => exact Or.inl hactive
      | drop => exact Or.inl hactive
    | called call =>
      cases call with
      | send => exact Or.inl hactive
      | broadcast => exact Or.inl hactive
      | disconnect k =>
        by_cases hk : k = id
        · exact Or.inr ⟨[], past, hk ▸ rfl, hactive⟩
        · rw [ReadOrAsked, standing_disconnect, if_neg hk]
          exact Or.inl hactive
    | received => exact Or.inl hactive
    | wrote => exact Or.inl hactive
    | writeFailed => exact Or.inl hactive
    | closed k cause unsent =>
      by_cases hk : k = id
      · exact absurd hactive (hclosed cause unsent (hk ▸ rfl))
      · rw [ReadOrAsked, standing_closed, if_neg hk]
        exact Or.inl hactive
  · exact Or.inr (hasked.append [entry])

end Input

/-- A call leaves alone what a connection reads, except that it may end the reading. -/
theorem Outgoing.actOn_reads (call : Outgoing String) (id : Handle) (c : Connection) :
    (call.actOn id c).framer = c.framer ∧ (call.actOn id c).inbound = c.inbound ∧
      ((call.actOn id c).closing = false → c.closing = false) := by
  have hoffer : ∀ text, (c.offer text).framer = c.framer ∧ (c.offer text).inbound = c.inbound := by
    intro text
    unfold Connection.offer
    split <;> exact ⟨rfl, rfl⟩
  cases call with
  | send who text => by_cases hwho : who = id <;> simp [actOn, hwho, hoffer]
  | broadcast text => simp [actOn, hoffer]
  | disconnect who => by_cases hwho : who = id <;> simp [actOn, hwho]

namespace Switchboard

/-- The framer of a connection that is read, with the bytes that it has not taken off. -/
def reading? (board : Switchboard) (id : Handle) : Option (Framer × List UInt8) :=
  (board.get? id).bind fun c => if c.closing then none else some (c.framer, c.inbound)

variable {board : Switchboard} {id k : Handle} {c c' : Connection}
  {input : Framer × List UInt8}

theorem reading?_eq_some :
    board.reading? id = some input ↔
      ∃ c, board.get? id = some c ∧ c.closing = false ∧ (c.framer, c.inbound) = input := by
  rw [reading?, Option.bind_eq_some_iff]
  refine exists_congr fun c => and_congr_right fun _ => ?_
  cases c.closing <;> simp

theorem reading?_put :
    (board.put k c).reading? id = if k = id then
      if c.closing then none else some (c.framer, c.inbound) else board.reading? id := by
  rw [reading?, get?_put]
  split <;> rfl

/-- A connection may change but for what it reads. -/
theorem reading?_put_of_get? (hc : board.get? k = some c) (hclosing : c'.closing = c.closing)
    (hframer : c'.framer = c.framer) (hinbound : c'.inbound = c.inbound) :
    (board.put k c').reading? id = board.reading? id := by
  rw [reading?_put]
  split
  · rename_i hk
    subst hk
    rw [hclosing, hframer, hinbound, reading?, hc, Option.bind_some]
  · rfl

theorem reading?_remove (h : (board.remove k).reading? id = some input) :
    board.reading? id = some input := by
  rw [reading?, get?_remove] at h
  split at h
  · cases h
  · exact h

/-- Calls leave what is read as it is, or end the reading. -/
theorem reading?_carryOut {call : Outgoing String}
    (h : (board.carryOut call).reading? id = some input) : board.reading? id = some input := by
  obtain ⟨c', hc', hopen, hinput⟩ := reading?_eq_some.mp h
  rw [get?_carryOut] at hc'
  obtain ⟨c, hc, rfl⟩ := Option.map_eq_some_iff.mp hc'
  obtain ⟨hframer, hinbound, hbefore⟩ := call.actOn_reads id c
  rw [hframer, hinbound] at hinput
  exact reading?_eq_some.mpr ⟨c, hc, hbefore hopen, hinput⟩

end Switchboard

namespace Multiplexer

open Relation

variable {σ ε : Type} {net : Host ε} {handler : Handler σ} {start : σ} {m m' : Multiplexer σ ε}
  {id k : Handle} {c : Connection} {backlog : List String}

/-! ## What is owed of a connection -/

/-- What is owed of a connection of which some lines were cut off and not handed on yet. -/
structure Owing (net : Host ε) (id : Handle) (backlog : List String) (m : Multiplexer σ ε) :
    Prop where
  /-- The lines were handed on as they came. -/
  begun : Each (Entry.Begins id) m.journal
  /-- While the connection is read, nothing is lost and nothing comes twice, whatever bytes
  are to come. -/
  kept : ∀ f inbound, m.board.reading? id = some (f, inbound) → f.Searched inbound ∧
    ∀ future, expectedLines standardLimit (bytesReceived id m.journal ++ future) =
      linesHandedOn id m.journal ++ backlog ++ texts (f.pending (inbound ++ future))
  /-- If it was not asked to be closed, nothing else is owed. -/
  whole : NeverRefuses net id → ¬ Asked id m.journal →
    linesHandedOn id m.journal ++ backlog = linesReceived id m.journal

namespace Owing

theorem create (net : Host ε) (id : Handle) (listen : ListenSettings) (start : σ) (host : ε) :
    Owing net id [] (Multiplexer.create listen start host) where
  begun := trivial
  kept f inbound hreading := by
    obtain ⟨c, hc, -⟩ := Switchboard.reading?_eq_some.mp hreading
    cases Switchboard.get?_empty.symm.trans hc
  whole _ _ := (expectedLines_nil standardLimit).symm

/-- Other parts of the server may change, and the connection may be read no more. -/
theorem congr (h : Owing net id backlog m) (hjournal : m'.journal = m.journal)
    (hboard : ∀ input, m'.board.reading? id = some input → m.board.reading? id = some input) :
    Owing net id backlog m' where
  begun := hjournal ▸ h.begun
  kept f inbound hreading := by
    rw [hjournal]
    exact h.kept f inbound (hboard _ hreading)
  whole := hjournal ▸ h.whole

/-- Something is noted that has nothing to do with what the connection sends. -/
theorem note {entry : Entry} (h : Owing net id backlog m) (hsilent : entry.Silent id) :
    Owing net id backlog (m.record entry) where
  begun := ⟨hsilent.begins, h.begun⟩
  kept f inbound hreading := by
    change _ ∧ ∀ future, expectedLines standardLimit (bytesReceived id (entry :: m.journal) ++ _) =
      linesHandedOn id (entry :: m.journal) ++ _ ++ _
    rw [hsilent.bytesReceived, hsilent.linesHandedOn]
    exact h.kept f inbound hreading
  whole hnever hasked := by
    change linesHandedOn id (entry :: m.journal) ++ _ = linesReceived id (entry :: m.journal)
    rw [hsilent.linesHandedOn, hsilent.linesReceived]
    exact h.whole hnever fun hbefore => hasked (hbefore.append [entry])

theorem call (h : Owing net id backlog m) (call : Outgoing String) :
    Owing net id backlog (m.call call) := by
  have hboard : Owing net id backlog { m with board := m.board.carryOut call } :=
    h.congr rfl fun _ => Switchboard.reading?_carryOut
  exact hboard.note ⟨rfl, rfl⟩

/-- An event is raised that is no line of the connection. -/
theorem raise {event : Event} (h : Owing net id backlog m)
    (hevent : ∀ text, event ≠ .line id text) :
    Owing net id backlog (Multiplexer.raise handler m event) := by
  have hsilent : (Entry.raised event m.board.count).Silent id := by
    rcases silent_or id (.raised event m.board.count) with hsilent | ⟨bytes, he⟩ | ⟨text, count, he⟩
    · exact hsilent
    · cases he
    · cases he
      exact absurd rfl (hevent text)
  have hstate : Owing net id backlog
      { m with state := (handler.react m.state m.board.count event).1 } :=
    h.congr rfl fun _ hinput => hinput
  exact raise_keeps (hstate.note hsilent) fun call hm => hm.call call

/-- A connection comes from which nothing was heard. -/
theorem letIn (h : Owing net id [] m) (hm : Consistent handler start m) :
    Owing net id []
      (Multiplexer.raise handler
        { m with nextHandle := m.nextHandle + 1,
                 board := m.board.put m.nextHandle Connection.fresh }
        (.connect m.nextHandle)) := by
  refine raise ⟨h.begun, fun f inbound hreading => ?_, h.whole⟩ fun text => nofun
  change (m.board.put m.nextHandle Connection.fresh).reading? id = some (f, inbound) at hreading
  rw [Switchboard.reading?_put] at hreading
  split at hreading
  · rename_i hid
    subst hid
    cases hreading
    obtain ⟨hbytes, hlines⟩ := silence_of_unseen hm.lawful (hm.unseen m.nextHandle (Nat.le_refl _))
    refine ⟨searched_start rfl, fun future => ?_⟩
    change expectedLines standardLimit (bytesReceived m.nextHandle m.journal ++ future) =
      linesHandedOn m.nextHandle m.journal ++ [] ++ _
    rw [hbytes, hlines]
    rfl
  · exact h.kept f inbound hreading

/-- A connection leaves the table. -/
theorem remove {cause : Closing} {unsent : List UInt8} (h : Owing net id backlog m) :
    Owing net id backlog
      ({ m with board := m.board.remove k }.record (.closed k cause unsent)) := by
  have hremoved : Owing net id backlog { m with board := m.board.remove k } :=
    h.congr rfl fun _ => Switchboard.reading?_remove
  exact hremoved.note ⟨rfl, rfl⟩

/-- A connection is closed. -/
theorem close (h : Owing net id backlog m) (hc : m.board.get? k = some c) (cause : Closing) :
    Owing net id backlog (Multiplexer.close handler m k cause) := by
  rw [close_of_get? hc]
  exact h.remove.raise fun text => nofun

/-- A connection changes but for what it reads. -/
theorem put (h : Owing net id backlog m) (hc : m.board.get? k = some c) {c' : Connection}
    (hclosing : c'.closing = c.closing) (hframer : c'.framer = c.framer)
    (hinbound : c'.inbound = c.inbound) :
    Owing net id backlog { m with board := m.board.put k c' } := by
  refine h.congr rfl fun input hinput => ?_
  exact (Switchboard.reading?_put_of_get? hc hclosing hframer hinbound).symm.trans hinput

theorem written (h : Owing net id backlog m) (hc : m.board.get? k = some c) :
    Owing net id backlog (m.written net k c) := by
  have hput : Owing net id backlog
      { m with board := m.board.put k { c with outbound := (m.flushed net k c).left } } :=
    h.put hc rfl rfl rfl
  have hhost : Owing net id backlog
      { m with host := (net.write m.host k c.outbound).2,
               board := m.board.put k { c with outbound := (m.flushed net k c).left } } :=
    hput.congr rfl fun _ hinput => hinput
  exact written_keeps (hhost.note ⟨rfl, rfl⟩) fun hwrote => hwrote.note ⟨rfl, rfl⟩

/-- Everything is closed at once. -/
theorem deactivate (h : Owing net id backlog m) : Owing net id backlog m.deactivate := by
  refine deactivate_keeps (fun _ hm => hm.remove) (fun _ hm => ?_) h
  refine hm.congr rfl fun input hinput => ?_
  obtain ⟨c, hc, -⟩ := Switchboard.reading?_eq_some.mp hinput
  cases Switchboard.get?_empty.symm.trans hc

/-- Bytes of the connection are read, and the lines that they complete are cut off. -/
theorem receive (h : Owing net id [] m) (hc : m.board.get? id = some c) (hread : c.closing = false)
    (bytes : List UInt8) :
    Owing net id (c.receive bytes).2
      ({ m with board := m.board.put id (c.receive bytes).1 }.record (.received id bytes)) := by
  obtain ⟨hsearched, hall⟩ :=
    h.kept c.framer c.inbound (Switchboard.reading?_eq_some.mpr ⟨c, hc, hread, rfl⟩)
  have hmore : c.framer.Searched (c.inbound ++ bytes) := hsearched.append bytes
  have hlines : linesHandedOn id (.received id bytes :: m.journal) = linesHandedOn id m.journal :=
    gathered_cons_of_nil rfl
  refine ⟨⟨trivial, h.begun⟩, fun f inbound hreading => ?_, fun _ _ => ?_⟩
  · have hafter : some ((c.receive bytes).1.framer, (c.receive bytes).1.inbound) =
        some (f, inbound) := by
      have hput := Switchboard.reading?_put.symm.trans hreading
      rwa [if_pos rfl, Connection.closing_receive, hread, if_neg Bool.false_ne_true] at hput
    cases hafter
    refine ⟨searched_drain hmore, fun future => ?_⟩
    change expectedLines standardLimit
        (bytesReceived id (.received id bytes :: m.journal) ++ future) =
      linesHandedOn id (.received id bytes :: m.journal) ++ _ ++ _
    rw [bytesReceived_received, hlines, List.append_assoc, hall (bytes ++ future),
      texts_pending_drain hsearched, List.append_nil, List.append_assoc]
    rfl
  · change linesHandedOn id (.received id bytes :: m.journal) ++ lines (c.framer.drain _).found =
      linesReceived id (.received id bytes :: m.journal)
    rw [linesReceived, bytesReceived_received, hlines, hall bytes, lines_drain hmore,
      List.append_nil]

/-- A line of the backlog is handed on. -/
theorem line {text : String} (h : Owing net id (text :: backlog) m)
    (haccepts : m.board.accepts id = true) :
    Owing net id backlog (Multiplexer.raise handler m (.line id text)) := by
  obtain ⟨c, hc, hread⟩ := Switchboard.accepts_iff.mp haccepts
  have hreading := Switchboard.reading?_eq_some.mpr ⟨c, hc, hread, rfl⟩
  let entry : Entry := .raised (.line id text) m.board.count
  have hbytes : bytesReceived id (entry :: m.journal) = bytesReceived id m.journal :=
    gathered_cons_of_nil rfl
  have hlines : linesHandedOn id (entry :: m.journal) = linesHandedOn id m.journal ++ [text] :=
    linesHandedOn_line
  refine raise_keeps ⟨⟨fun _ => ?_, h.begun⟩, fun f inbound hreading => ?_, fun hnever hasked => ?_⟩
    fun call hm => hm.call call
  · have hnow := (h.kept c.framer c.inbound hreading).2 []
    rw [List.append_nil] at hnow
    refine ⟨backlog ++ texts (c.framer.pending (c.inbound ++ [])), ?_⟩
    rw [linesReceived, hnow]
    simp
  · obtain ⟨hsearched, hall⟩ := h.kept f inbound hreading
    refine ⟨hsearched, fun future => ?_⟩
    change expectedLines standardLimit (bytesReceived id (entry :: m.journal) ++ future) =
      linesHandedOn id (entry :: m.journal) ++ _ ++ _
    rw [hbytes, hlines, hall future]
    simp
  · change linesHandedOn id (entry :: m.journal) ++ backlog =
      expectedLines standardLimit (bytesReceived id (entry :: m.journal))
    rw [hbytes, hlines, List.append_assoc]
    exact h.whole hnever fun hbefore => hasked (hbefore.append [entry])

end Owing

/-! ## Handing lines on -/

/-- Applying changes hands nothing on and reads nothing. -/
theorem Chore.owing (h : Chore net handler m m') (howing : Owing net id backlog m) :
    Owing net id backlog m' := by
  cases h with
  | asked => exact howing.congr rfl fun _ hinput => hinput
  | wrote hc => exact howing.written hc
  | @armed k c hc =>
    have hput : Owing net id backlog
        { m with board := m.board.put k { c with watchesWrites := c.hasOutput } } :=
      howing.put hc rfl rfl rfl
    exact hput.congr rfl fun _ hinput => hinput
  | taken => exact howing.congr rfl fun _ hinput => hinput
  | released hc => exact howing.close hc _
  | refused hc => exact howing.close hc _

theorem settle_owing (howing : Owing net id backlog m) :
    Owing net id backlog (settle net handler m) :=
  settle_keeps net handler (P := Owing net id backlog) Chore.owing howing

theorem readOrAsked_raise {event : Event} (h : ReadOrAsked id m.journal) :
    ReadOrAsked id (raise handler m event).journal :=
  raise_keeps (P := fun m => ReadOrAsked id m.journal) (h.cons fun _ _ => nofun)
    fun _ hm => hm.cons fun _ _ => nofun

/-- Applying changes closes only connections that were asked to be closed, unless the poller
refuses to watch them. -/
theorem Chore.readOrAsked (h : Chore net handler m m') (hnever : NeverRefuses net id)
    (hm : Consistent handler start m) (hread : ReadOrAsked id m.journal) :
    ReadOrAsked id m'.journal := by
  cases h with
  | asked => exact hread
  | @wrote k c =>
    exact written_keeps (P := fun m => ReadOrAsked id m.journal) (hread.cons fun _ _ => nofun)
      fun hwrote => hwrote.cons fun _ _ => nofun
  | armed => exact hread
  | taken => exact hread
  | released hc hclosing =>
    rw [close_of_get? hc]
    refine readOrAsked_raise (hread.cons ?_)
    rintro cause unsent ⟨⟩ hactive
    cases hclosing.symm.trans ((hm.reads_iff hc).mpr hactive)
  | refused hc hrefused =>
    rw [close_of_get? hc]
    refine readOrAsked_raise (hread.cons ?_)
    rintro cause unsent ⟨⟩
    obtain ⟨state, writes, hfalse⟩ := hrefused
    cases (hnever state writes).symm.trans hfalse

/-- When the lines that were cut off have been dealt with, none of them is owed any more. -/
theorem dispatch_owing (texts : List String) (hm : Consistent handler start m)
    (howing : Owing net id texts m) (hread : NeverRefuses net id → ReadOrAsked id m.journal) :
    Owing net id [] (dispatch net handler id texts m) := by
  induction texts generalizing m with
  | nil => exact howing
  | cons text texts ih =>
    rw [dispatch]
    split
    · rename_i haccepts
      have hline : Action net handler m (raise handler m (.line id text)) :=
        Action.line text haccepts
      have hraised := hline.consistent hm
      refine ih (hraised.actions (settle_actions net handler _))
        (settle_owing (howing.line haccepts)) fun hnever => ?_
      refine (keeps_of_steps
        (P := fun m => Consistent handler start m ∧ ReadOrAsked id m.journal) ?_
        (settle_chores net handler _) ⟨hraised, readOrAsked_raise (hread hnever)⟩).2
      rintro m₁ m₂ hchore ⟨hm₁, hread₁⟩
      exact ⟨hchore.action.consistent hm₁, hchore.readOrAsked hnever hm₁ hread₁⟩
    · -- the rest of the lines is dropped, since the connection is not read any more
      rename_i haccepts
      refine ⟨howing.begun, fun f inbound hreading => ?_, fun hnever hasked => ?_⟩
      · obtain ⟨c, hc, hopen, -⟩ := Switchboard.reading?_eq_some.mp hreading
        exact absurd (Switchboard.accepts_iff.mpr ⟨c, hc, hopen⟩) haccepts
      · rcases hread hnever with hactive | hbefore
        · exact absurd (hm.accepts_iff.mpr hactive) haccepts
        · exact absurd hbefore hasked

/-- The lines of another connection make no difference. -/
theorem dispatch_owing_of_ne (hk : k ≠ id) (texts : List String) (howing : Owing net id backlog m) :
    Owing net id backlog (dispatch net handler k texts m) := by
  refine dispatch_keeps net handler (P := Owing net id backlog) (fun text _ hm => ?_) Chore.owing
    texts howing
  exact hm.raise fun other he => hk (Event.line.inj he).1

/-- So are the bytes of which all lines were dealt with. -/
theorem takeIn_owing (hc : m.board.get? k = some c) (hread : c.closing = false)
    (bytes : List UInt8) (hm : Consistent handler start m) (howing : Owing net id [] m) :
    Owing net id [] (takeIn net handler m k c bytes) := by
  have hreceived : Action net handler m
      ({ m with board := m.board.put k (c.receive bytes).1 }.record (.received k bytes)) :=
    Action.received bytes hc hread
  by_cases hk : k = id
  · subst hk
    refine dispatch_owing _ (hreceived.consistent hm) (howing.receive hc hread bytes)
      fun _ => Or.inl ?_
    exact (hm.reads_iff hc).mp hread
  · have hput : Owing net id [] { m with board := m.board.put k (c.receive bytes).1 } := by
      refine howing.congr rfl fun input hinput => ?_
      exact (Switchboard.reading?_put.trans (if_neg hk)).symm.trans hinput
    exact dispatch_owing_of_ne hk _ (hput.note ⟨if_neg hk, rfl⟩)

theorem writeAll_owing (howing : Owing net id backlog m) :
    Owing net id backlog (writeAll net handler m k) := by
  refine writeAll_keeps net handler k Chore.owing (fun hc _ hm => hm.close hc .writeFailed)
    (fun hm => hm.congr rfl fun input hinput => ?_) howing
  rwa [Switchboard.reading?, Switchboard.get?_mark] at hinput

theorem Round.owing (h : Round net handler m m') (hm : Consistent handler start m)
    (howing : Owing net id [] m) : Owing net id [] m' := by
  cases h with
  | asked => exact howing.congr rfl fun _ hinput => hinput
  | admitted => exact howing.letIn hm
  | skipped => exact howing.congr rfl fun _ hinput => hinput
  | read k =>
    refine (readAll_keeps net handler (P := fun m =>
      Consistent handler start m ∧ Owing net id [] m) k ?_ ?_ ?_ ⟨hm, howing⟩).2
    · rintro - ⟨hm, howing⟩
      exact ⟨(Action.read k).consistent hm, howing.congr rfl fun _ hinput => hinput⟩
    · rintro m c bytes hc hread ⟨hm, howing⟩
      exact ⟨hm.actions (takeIn_actions net handler bytes hc hread),
        takeIn_owing hc hread bytes hm howing⟩
    · rintro m c hc hread ⟨hm, howing⟩
      have hclosed : Action net handler m (Multiplexer.close handler m k .readEnded) :=
        Action.closed hc hread
      exact ⟨hclosed.consistent hm, howing.close hc .readEnded⟩
  | closed hc => exact howing.close hc _
  | wrote => exact writeAll_owing howing
  | settled => exact settle_owing howing

/-- No stage leaves a backlog. -/
theorem Stage.owing (h : Stage net handler m m') (hm : Consistent handler start m)
    (howing : Owing net id [] m) : Owing net id [] m' := by
  cases h with
  | served h => exact h.owing hm howing
  | listened => exact howing.congr rfl fun _ hinput => hinput
  | deactivated => exact howing.deactivate
  | verbosity => exact howing.congr rfl fun _ hinput => hinput
  | call call => exact howing.call call

/-- Throughout every run no connection has a backlog. -/
theorem run_owing (net : Host ε) (handler : Handler σ) (listen : ListenSettings) (start : σ)
    (host : ε) (demands : List (Demand ε)) (id : Handle) :
    Owing net id [] (run net handler (create listen start host) demands) := by
  refine (run_keeps_of_stages net handler
    (P := fun m => Consistent handler start m ∧ Owing net id [] m) ?_ ?_ ?_).2
  · rintro m m' hstage ⟨hm, howing⟩
    exact ⟨hm.actions hstage.actions, hstage.owing hm howing⟩
  · rintro m change - ⟨hm, howing⟩
    exact ⟨hm.congr rfl rfl (Nat.le_refl _) fun _ => rfl,
      howing.congr rfl fun _ hinput => hinput⟩
  · exact ⟨Consistent.create listen start host, Owing.create net id listen start host⟩

end Multiplexer

end RelayChat
