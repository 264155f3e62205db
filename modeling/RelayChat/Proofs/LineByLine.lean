import RelayChat.Proofs.FramerCalls
import RelayChat.Proofs.OwedLines

/-!
# Reading line by line

A server may also take the lines of a connection off one by one, the next one only when
everything has been done that the handler asked for in answer to the last. `LineByLine` is this
server. It also keeps the tables of connections that it goes through, so that what is in a
buffer for a moment only is not overlooked. When a connection is to be closed, the rest of what
it has sent stays in its buffer, where it does no harm since nothing is read from the connection
any more. Take off all that is complete in the buffers (`Multiplexer.drained`), and there is no
difference left to the server that takes all lines off at once.
-/

namespace RelayChat

namespace Connection

/-- The connection with more bytes arrived, which are not looked at yet. -/
def gather (c : Connection) (bytes : List UInt8) : Connection :=
  { c with inbound := c.inbound ++ bytes }

/-- The connection when its next line has been taken off, and the line if there is one. -/
def readLine (c : Connection) : Connection × Option String :=
  let reading := c.framer.nextLine c.inbound
  ({ c with inbound := reading.buffer, framer := reading.framer }, reading.line)

/-- The connection when all that is complete has been taken off. -/
def drained (c : Connection) : Connection :=
  { c with inbound := (c.framer.drain c.inbound).buffer,
           framer := (c.framer.drain c.inbound).framer }

/-- The lines that can be taken off. -/
def buffered (c : Connection) : List String :=
  Framer.lines (c.framer.drain c.inbound).found

variable {c : Connection} {bytes : List UInt8} {line : String}

theorem receive_eq : c.receive bytes = ((c.gather bytes).drained, (c.gather bytes).buffered) :=
  rfl

theorem drained_fresh : fresh.drained = fresh := by
  have hnothing : Framer.standard.next [] = ⟨Framer.standard, [], .nothing⟩ :=
    Framer.next_of_length_le (Nat.zero_le _)
  rw [drained, fresh, Framer.drain_of_nothing (by rw [hnothing]), hnothing]

/-- When there is no line, all that is complete has been taken off. -/
theorem readLine_eq_none (h : c.readLine.2 = none) :
    c.buffered = [] ∧ c.readLine.1 = c.drained := by
  obtain ⟨hnone, hframer, hbuffer⟩ := Framer.nextLine_eq_none h
  refine ⟨hnone, ?_⟩
  rw [readLine, hframer, hbuffer, drained]

theorem readLine_eq_some (h : c.readLine.2 = some line) :
    c.buffered = line :: c.readLine.1.buffered ∧ c.readLine.1.drained = c.drained ∧
      c.readLine.1.inbound.length < c.inbound.length := by
  obtain ⟨hlines, hframer, hbuffer, hless⟩ := Framer.nextLine_eq_some h
  refine ⟨hlines, ?_, hless⟩
  rw [drained, readLine, drained, hframer, hbuffer]

end Connection

namespace Switchboard

/-- The table when all that is complete has been taken off the buffers. -/
def drained (board : Switchboard) : Switchboard :=
  { board with connections := board.connections.map fun _ c => c.drained }

variable {board board' board'' other : Switchboard} {id k : Handle} {c c' : Connection}

/-- Tables with the same connections, of which the same wait, are the same. -/
theorem eq_of_get? (hget : ∀ k, board.get? k = other.get? k)
    (hpending : board.pending = other.pending) : board = other := by
  have hconnections : board.connections = other.connections := Std.ExtTreeMap.ext_getElem? hget
  cases board
  cases other
  cases hconnections
  cases hpending
  rfl

@[simp] theorem get?_drained : board.drained.get? k = (board.get? k).map Connection.drained :=
  Std.ExtTreeMap.getElem?_map

@[simp] theorem count_drained : board.drained.count = board.count :=
  Std.ExtTreeMap.size_map

theorem drained_empty : empty.drained = empty :=
  eq_of_get? (fun k => by rw [get?_drained, get?_empty, Option.map_none]) rfl

theorem put_of_get? (hc : board.get? id = some c) : board.put id c = board := by
  refine eq_of_get? (fun k => ?_) rfl
  rw [get?_put]
  split
  · rename_i hk
    rw [← hk, hc]
  · rfl

theorem put_drained : (board.put id c).drained = board.drained.put id c.drained := by
  refine eq_of_get? (fun k => ?_) rfl
  rw [get?_drained, get?_put, get?_put, get?_drained]
  split <;> rfl

theorem remove_drained : (board.remove id).drained = board.drained.remove id := by
  refine eq_of_get? (fun k => ?_) rfl
  rw [get?_drained, get?_remove, get?_remove, get?_drained]
  split <;> rfl

theorem mark_drained : (board.mark id).drained = board.drained.mark id := by
  unfold mark
  change _ = if board.pending.contains id then _ else _
  split <;> rfl

theorem send_drained {text : String} :
    (board.send id text).drained = board.drained.send id text := by
  unfold send
  rw [get?_drained]
  cases board.get? id with
  | none => rfl
  | some c =>
    rw [Option.map_some]
    dsimp only
    change _ = if c.closing then _ else
      if !c.hasOutput && !text.isEmpty then _ else _
    split
    · rfl
    · split
      · rw [mark_drained, put_drained]
        rfl
      · exact put_drained

theorem carryOut_drained (call : Outgoing String) :
    (board.carryOut call).drained = board.drained.carryOut call := by
  cases call with
  | send who text => exact send_drained
  | broadcast text =>
    have hfold : ∀ (ids : List Handle) (board : Switchboard),
        (ids.foldl (fun board id => board.send id text) board).drained =
          ids.foldl (fun board id => board.send id text) board.drained := by
      intro ids
      induction ids with
      | nil => exact fun _ => rfl
      | cons id ids ih =>
        intro board
        rw [List.foldl_cons, ih, send_drained, List.foldl_cons]
    have hkeys : board.drained.connections.keys = board.connections.keys :=
      Std.ExtTreeMap.keys_map
    rw [carryOut, broadcast, hfold, carryOut, broadcast, hkeys]
  | disconnect who =>
    rw [carryOut, carryOut, disconnect, disconnect, get?_drained]
    cases board.get? who with
    | none => rfl
    | some c =>
      rw [Option.map_some]
      dsimp only
      change _ = if c.closing then _ else _
      split
      · rfl
      · rw [mark_drained, put_drained]
        rfl

/-! ## What has arrived stays -/

/-- Connections may have left, changed otherwise or been asked to close, but the buffers of
those that are there, and how far these were searched, are as before. -/
def InputKept (board board' : Switchboard) : Prop :=
  ∀ id c', board'.get? id = some c' → ∃ c, board.get? id = some c ∧
    c'.inbound = c.inbound ∧ c'.framer = c.framer ∧ (c'.closing = false → c.closing = false)

/-- How many bytes of a connection are in its buffer. -/
def unread (board : Switchboard) (id : Handle) : Nat :=
  ((board.get? id).map (·.inbound.length)).getD 0

theorem unread_of_get? (hc : board.get? id = some c) : board.unread id = c.inbound.length := by
  rw [unread, hc]
  rfl

namespace InputKept

theorem refl (board : Switchboard) : board.InputKept board :=
  fun _ c hc => ⟨c, hc, rfl, rfl, fun hopen => hopen⟩

theorem trans (h : board.InputKept board') (h' : board'.InputKept board'') :
    board.InputKept board'' := by
  intro id c'' hc''
  obtain ⟨c', hc', hinbound', hframer', hclosing'⟩ := h' id c'' hc''
  obtain ⟨c, hc, hinbound, hframer, hclosing⟩ := h id c' hc'
  exact ⟨c, hc, hinbound'.trans hinbound, hframer'.trans hframer, hclosing ∘ hclosing'⟩

/-- A connection of the table is put back changed otherwise. -/
theorem put (hc : board.get? id = some c) (hinbound : c'.inbound = c.inbound)
    (hframer : c'.framer = c.framer) (hclosing : c'.closing = c.closing) :
    board.InputKept (board.put id c') := by
  intro k c'' hc''
  rw [get?_put] at hc''
  by_cases hk : id = k
  · rw [if_pos hk] at hc''
    cases hc''
    exact ⟨c, hk ▸ hc, hinbound, hframer, fun hopen => hclosing.symm.trans hopen⟩
  · rw [if_neg hk] at hc''
    exact ⟨c'', hc'', rfl, rfl, fun hopen => hopen⟩

theorem remove (board : Switchboard) (id : Handle) : board.InputKept (board.remove id) := by
  intro k c' hc'
  rw [get?_remove] at hc'
  split at hc'
  · cases hc'
  · exact ⟨c', hc', rfl, rfl, fun hopen => hopen⟩

theorem mark (board : Switchboard) (id : Handle) : board.InputKept (board.mark id) :=
  fun _ c hc => ⟨c, get?_mark.symm.trans hc, rfl, rfl, fun hopen => hopen⟩

theorem unread_le (h : board.InputKept board') (id : Handle) :
    board'.unread id ≤ board.unread id := by
  cases hc' : board'.get? id with
  | none =>
    rw [unread, hc']
    exact Nat.zero_le _
  | some c' =>
    obtain ⟨c, hc, hinbound, -⟩ := h id c' hc'
    rw [unread_of_get? hc', unread_of_get? hc]
    exact Nat.le_of_eq (congrArg List.length hinbound)

end InputKept

end Switchboard

namespace Multiplexer

open Relation

variable {σ ε : Type} {net : Host ε} {handler : Handler σ} {m m' m'' : Multiplexer σ ε}
  {id : Handle} {c : Connection}

/-! ## What has arrived stays -/

/-- Calls leave the buffers alone. -/
theorem inputKept_call (m : Multiplexer σ ε) (call : Outgoing String) :
    m.board.InputKept (m.call call).board := by
  intro k c' hc'
  change (m.board.carryOut call).get? k = some c' at hc'
  rw [Switchboard.get?_carryOut] at hc'
  obtain ⟨c, hc, rfl⟩ := Option.map_eq_some_iff.mp hc'
  obtain ⟨hframer, hinbound, hclosing⟩ := call.actOn_reads k c
  exact ⟨c, hc, hinbound, hframer, hclosing⟩

theorem inputKept_raise (handler : Handler σ) (m : Multiplexer σ ε) (event : Event) :
    m.board.InputKept (raise handler m event).board :=
  raise_keeps (P := fun after => m.board.InputKept after.board) (.refl m.board)
    fun c h => h.trans (inputKept_call _ c)

theorem inputKept_close (handler : Handler σ) (m : Multiplexer σ ε) (id : Handle)
    (cause : Closing) : m.board.InputKept (close handler m id cause).board := by
  cases hc : m.board.get? id with
  | none =>
    rw [close, hc]
    exact .refl m.board
  | some c =>
    rw [close_of_get? hc]
    exact (Switchboard.InputKept.remove m.board id).trans (inputKept_raise handler _ _)

theorem inputKept_chore (h : Chore net handler m m') : m.board.InputKept m'.board := by
  cases h with
  | asked => exact .refl m.board
  | wrote hc =>
    exact written_keeps (P := fun after => m.board.InputKept after.board) (.put hc rfl rfl rfl)
      fun hwrote => hwrote
  | armed hc => exact .put hc rfl rfl rfl
  | taken => exact fun _ c hc => ⟨c, hc, rfl, rfl, fun hopen => hopen⟩
  | released => exact inputKept_close handler m _ _
  | refused => exact inputKept_close handler m _ _

theorem inputKept_settle (net : Host ε) (handler : Handler σ) (m : Multiplexer σ ε) :
    m.board.InputKept (settle net handler m).board :=
  settle_keeps net handler (P := fun after => m.board.InputKept after.board)
    (fun hchore h => h.trans (inputKept_chore hchore)) (.refl m.board)

/-- The calls of the handler in answer to an event leave the buffers alone. -/
theorem inputKept_answer (net : Host ε) (handler : Handler σ) (m : Multiplexer σ ε)
    (event : Event) : m.board.InputKept (settle net handler (raise handler m event)).board :=
  (inputKept_raise handler m event).trans (inputKept_settle net handler _)

theorem inputKept_writeAll (net : Host ε) (handler : Handler σ) (m : Multiplexer σ ε)
    (id : Handle) : m.board.InputKept (writeAll net handler m id).board :=
  writeAll_keeps net handler (P := fun after => m.board.InputKept after.board) id
    (fun hchore h => h.trans (inputKept_chore hchore))
    (fun _ _ h => h.trans (inputKept_close handler _ id .writeFailed))
    (fun h => h.trans (.mark _ id)) (.refl m.board)

theorem inputKept_deactivate (m : Multiplexer σ ε) : m.board.InputKept m.deactivate.board := by
  unfold deactivate
  split
  · exact .refl m.board
  · intro id c hc
    change Switchboard.empty.get? id = some c at hc
    rw [Switchboard.get?_empty] at hc
    cases hc

theorem inputKept_activate (net : Host ε) (m : Multiplexer σ ε) :
    m.board.InputKept (m.activate net).1.board := by
  obtain ⟨host, hsystem | ⟨bound, hlistens⟩⟩ := activate_cases net m
  · rw [hsystem]
    exact .refl m.board
  · rw [hlistens]
    exact .refl m.board

theorem inputKept_setVerbosity (m : Multiplexer σ ε) (level : Nat) :
    m.board.InputKept (m.setVerbosity level).1.board := by
  obtain ⟨verbosity, hverbosity⟩ := setVerbosity_cases m level
  rw [hverbosity]
  exact .refl m.board

theorem inputKept_callAll (net : Host ε) (handler : Handler σ) (m : Multiplexer σ ε)
    (calls : List (Outgoing String)) : m.board.InputKept (m.callAll net handler calls).board := by
  have hcalled : m.board.InputKept (calls.foldl call m).board :=
    calls_keep (P := fun after => m.board.InputKept after.board)
      (fun c h => h.trans (inputKept_call _ c)) calls (.refl m.board)
  exact hcalled.trans (inputKept_settle net handler _)

/-! ## Taking off what is complete -/

/-- The server when all that is complete has been taken off the buffers. -/
def drained (m : Multiplexer σ ε) : Multiplexer σ ε :=
  { m with board := m.board.drained }

section Drained

theorem call_drained (m : Multiplexer σ ε) (c : Outgoing String) :
    (m.call c).drained = m.drained.call c := by
  simp only [call, record, drained, Switchboard.carryOut_drained]

theorem foldl_call_drained (calls : List (Outgoing String)) (m : Multiplexer σ ε) :
    (calls.foldl call m).drained = calls.foldl call m.drained := by
  induction calls generalizing m with
  | nil => rfl
  | cons first calls ih => rw [List.foldl_cons, ih, call_drained, List.foldl_cons]

theorem raise_drained (m : Multiplexer σ ε) (event : Event) :
    (raise handler m event).drained = raise handler m.drained event := by
  have hcount : m.drained.board.count = m.board.count := Switchboard.count_drained
  rw [raise, raise, hcount]
  exact foldl_call_drained _ _

theorem get?_drained_board (m : Multiplexer σ ε) (id : Handle) :
    m.drained.board.get? id = (m.board.get? id).map Connection.drained :=
  Switchboard.get?_drained

theorem close_drained (m : Multiplexer σ ε) (id : Handle) (cause : Closing) :
    (close handler m id cause).drained = close handler m.drained id cause := by
  rw [close, close, get?_drained_board]
  cases m.board.get? id with
  | none => rfl
  | some c =>
    rw [Option.map_some]
    dsimp only
    rw [raise_drained, drained, record, record]
    dsimp only
    rw [Switchboard.remove_drained]
    rfl

theorem written_drained (net : Host ε) (m : Multiplexer σ ε) (id : Handle) (c : Connection) :
    (m.written net id c).drained = m.drained.written net id c.drained := by
  have hwrote : (m.wroteOut net id c).drained = m.drained.wroteOut net id c.drained := by
    simp only [wroteOut, record, drained, Switchboard.put_drained]
    rfl
  unfold written
  change _ = if (m.flushed net id c).failed then _ else _
  rw [← hwrote]
  split <;> rfl

theorem flush_drained (net : Host ε) (m : Multiplexer σ ε) (id : Handle) (c : Connection) :
    flush net m.drained id c.drained =
      ((flush net m id c).1.drained, (flush net m id c).2.1.drained, (flush net m id c).2.2) := by
  by_cases hempty : c.outbound.isEmpty = true
  · have hempty' : c.drained.outbound.isEmpty = true := hempty
    rw [flush_of_isEmpty hempty, flush_of_isEmpty hempty']
  · have hempty' : ¬c.drained.outbound.isEmpty = true := hempty
    rw [flush_of_not_isEmpty hempty, flush_of_not_isEmpty hempty', written_drained]
    rfl

theorem watch_drained (net : Host ε) (m : Multiplexer σ ε) (id : Handle) (c : Connection) :
    (watch net handler m id c).drained = watch net handler m.drained id c.drained := by
  unfold watch
  change _ = if c.hasOutput = c.watchesWrites || !m.poller then _ else _
  split
  · rfl
  · change _ = if (net.arm m.host id c.hasOutput).1 then _ else _
    dsimp only
    split
    · simp only [drained, Switchboard.put_drained]
      rfl
    · exact close_drained _ id .unwatched

theorem settleOne_drained (net : Host ε) (m : Multiplexer σ ε) (id : Handle) :
    (settleOne net handler m id).drained = settleOne net handler m.drained id := by
  unfold settleOne
  rw [get?_drained_board]
  cases m.board.get? id with
  | none => rfl
  | some c =>
    rw [Option.map_some]
    dsimp only
    rw [flush_drained]
    change _ = if c.closing then _ else _
    split
    · dsimp only
      change _ = if (flush net m id c).2.1.hasOutput then _ else _
      split
      · exact watch_drained net _ id _
      · exact close_drained _ id _
    · exact watch_drained net m id c

theorem settlePass_drained (net : Host ε) (m : Multiplexer σ ε) :
    (settlePass net handler m).drained = settlePass net handler m.drained := by
  have hfold (ids : List Handle) (m : Multiplexer σ ε) :
      ids.foldl (settleOne net handler) m.drained =
        (ids.foldl (settleOne net handler) m).drained :=
    List.foldl_hom drained fun m id => (settleOne_drained net m id).symm
  exact (hfold m.board.pending _).symm

theorem settle_drained (net : Host ε) (m : Multiplexer σ ε) :
    (settle net handler m).drained = settle net handler m.drained := by
  have hwithin : ∀ (passes : Nat) (m : Multiplexer σ ε),
      (settleWithin net handler passes m).drained = settleWithin net handler passes m.drained := by
    intro passes
    induction passes with
    | zero => exact fun _ => rfl
    | succ passes ih =>
      intro m
      rw [settleWithin, settleWithin, ← settlePass_drained, ← ih]
      change _ = if m.board.pending.isEmpty then _ else _
      split <;> rfl
  have hcount : m.drained.board.count = m.board.count := Switchboard.count_drained
  rw [settle, settle, hcount]
  exact hwithin _ m

theorem takeConnection_drained (net : Host ε) (m : Multiplexer σ ε) :
    (takeConnection net handler m).drained = takeConnection net handler m.drained := by
  unfold takeConnection
  dsimp only
  rw [settle_drained, raise_drained, drained]
  dsimp only
  rw [Switchboard.put_drained, Connection.drained_fresh]
  rfl

theorem acceptEach_drained (net : Host ε) (answers : List AcceptAnswer) (m : Multiplexer σ ε) :
    (acceptEach net handler answers m).drained = acceptEach net handler answers m.drained := by
  induction answers generalizing m with
  | nil => rfl
  | cons answer answers ih =>
    cases answer with
    | arrived watched =>
      rw [acceptEach, acceptEach, ← takeConnection_drained, ← ih]
      split
      · rfl
      · exact ih _
    | interrupted => exact ih m
    | failed => rfl

theorem acceptArrivals_drained (net : Host ε) (m : Multiplexer σ ε) :
    (acceptArrivals net handler m).drained = acceptArrivals net handler m.drained := by
  unfold acceptArrivals
  change _ = if m.listener.isNone then _ else _
  split
  · rfl
  · exact acceptEach_drained net _ _

theorem writeAll_drained (net : Host ε) (m : Multiplexer σ ε) (id : Handle) :
    (writeAll net handler m id).drained = writeAll net handler m.drained id := by
  unfold writeAll
  rw [get?_drained_board]
  cases m.board.get? id with
  | none => rfl
  | some c =>
    rw [Option.map_some]
    dsimp only
    rw [flush_drained]
    dsimp only
    split
    · exact close_drained _ id _
    · simp only [drained, Switchboard.mark_drained]

theorem deactivate_drained (m : Multiplexer σ ε) :
    m.deactivate.drained = m.drained.deactivate := by
  have htable : m.drained.board.connections.toList =
      m.board.connections.toList.map fun entry => (entry.1, entry.2.drained) :=
    Std.ExtTreeMap.toList_map
  unfold deactivate
  change _ = if !m.poller then _ else _
  split
  · rfl
  · rw [htable, List.map_map, drained]
    dsimp only
    rw [Switchboard.drained_empty]
    rfl

theorem activate_drained (net : Host ε) (m : Multiplexer σ ε) :
    (m.activate net).1.drained = (m.drained.activate net).1 := by
  obtain ⟨listen, poller, listener, board, state, host, verbosity, nextHandle, journal⟩ := m
  unfold activate drained
  dsimp only
  cases poller with
  | true => rfl
  | false =>
    cases listen.endpoint with
    | error => rfl
    | ok wanted =>
      dsimp only
      generalize net.bind host wanted = answer
      obtain ⟨bound | source, host⟩ := answer <;> rfl

theorem setVerbosity_drained (m : Multiplexer σ ε) (level : Nat) :
    (m.setVerbosity level).1.drained = (m.drained.setVerbosity level).1 := by
  unfold setVerbosity
  cases Verbosity.ofLevel level <;> rfl

theorem callAll_drained (net : Host ε) (m : Multiplexer σ ε) (calls : List (Outgoing String)) :
    (m.callAll net handler calls).drained = m.drained.callAll net handler calls := by
  rw [callAll, settle_drained, foldl_call_drained, callAll]

theorem accepts_drained (m : Multiplexer σ ε) (id : Handle) :
    m.drained.board.accepts id = m.board.accepts id := by
  rw [Switchboard.accepts, get?_drained_board, Switchboard.accepts]
  cases m.board.get? id <;> rfl

end Drained

end Multiplexer

/-! ## The server -/

namespace LineByLine

open Multiplexer (raise settle close acceptArrivals writeAll listenerHandle)

variable {σ ε : Type}

/-- The server with the tables that there were after its steps so far, the last one first. No
step changes a buffer twice. -/
structure Course (σ ε : Type) where
  /-- The server. -/
  server : Multiplexer σ ε
  /-- The tables. -/
  tables : List Switchboard

/-- A server that has not done anything yet. -/
def Course.start (m : Multiplexer σ ε) : Course σ ε :=
  ⟨m, [m.board]⟩

/-- The server makes a step. -/
def Course.go (course : Course σ ε) (m : Multiplexer σ ε) : Course σ ε :=
  ⟨m, m.board :: course.tables⟩

/-- Hands the lines of a connection to the handler one by one, as long as the connection is open
and not to be closed. -/
def dispatch (net : Host ε) (handler : Handler σ) (id : Handle) (course : Course σ ε) :
    Course σ ε :=
  match _hc : course.server.board.get? id with
  | none => course
  | some c =>
    if c.closing then course
    else
      let after := course.go
        { course.server with board := course.server.board.put id c.readLine.1 }
      match _hline : c.readLine.2 with
      | none => after
      | some line =>
        dispatch net handler id
          (after.go (settle net handler (raise handler after.server (.line id line))))
termination_by course.server.board.unread id
decreasing_by
  have hkept := Multiplexer.inputKept_answer net handler after.server (.line id line)
  have hafter : after.server.board.get? id = some c.readLine.1 :=
    Switchboard.get?_put_self course.server.board id c.readLine.1
  rw [Switchboard.unread_of_get? _hc]
  refine Nat.lt_of_le_of_lt (hkept.unread_le id) ?_
  rw [Switchboard.unread_of_get? hafter]
  exact (Connection.readLine_eq_some _hline).2.2

/-- Takes in bytes and hands the lines that they complete to the handler. -/
def takeIn (net : Host ε) (handler : Handler σ) (course : Course σ ε) (id : Handle)
    (c : Connection) (bytes : List UInt8) : Course σ ε :=
  let m := { course.server with board := course.server.board.put id (c.gather bytes) }
  dispatch net handler id (course.go (m.record (.received id bytes)))

/-- Deals with the answers to attempts to read, as long as the connection is open and not to be
closed. -/
def readEach (net : Host ε) (handler : Handler σ) (id : Handle) :
    List ReadAnswer → Course σ ε → Course σ ε
  | [], course => course
  | answer :: answers, course =>
    match course.server.board.get? id with
    | none => course
    | some c =>
      if c.closing then course
      else match answer with
        | .received piece =>
          readEach net handler id answers (takeIn net handler course id c piece.bytes)
        | .interrupted => readEach net handler id answers course
        | .finished | .failed => course.go (close handler course.server id .readEnded)

/-- Reads all that has arrived on a connection. -/
def readAll (net : Host ε) (handler : Handler σ) (course : Course σ ε) (id : Handle) :
    Course σ ε :=
  if course.server.board.accepts id then
    let (answers, host) := net.read course.server.host id
    readEach net handler id answers (course.go { course.server with host := host })
  else course

/-- Deals with one socket that is ready. -/
def serve (net : Host ε) (handler : Handler σ) (course : Course σ ε) (socket : Readiness) :
    Course σ ε :=
  if socket.id = listenerHandle then course.go (acceptArrivals net handler course.server)
  else
    let course :=
      if socket.readable || socket.hangup then readAll net handler course socket.id else course
    if socket.hangup then course.go (close handler course.server socket.id .hungUp)
    else if socket.writable then course.go (writeAll net handler course.server socket.id)
    else course

/-- Waits for activity and deals with it. -/
def wait (net : Host ε) (handler : Handler σ) (course : Course σ ε) : Course σ ε :=
  if !course.server.poller then course
  else
    let (answer, host) := net.poll course.server.host
    let course := course.go { course.server with host := host }
    match answer with
    | .ready sockets =>
      let served := sockets.foldl (serve net handler) course
      served.go (settle net handler served.server)
    | _ => course

/-- The server after a demand. -/
def meet (net : Host ε) (handler : Handler σ) (course : Course σ ε) :
    Multiplexer.Demand ε → Course σ ε
  | .wait => wait net handler course
  | demand => course.go (course.server.meet net handler demand)

/-- The server after a series of demands. -/
def run (net : Host ε) (handler : Handler σ) (course : Course σ ε)
    (demands : List (Multiplexer.Demand ε)) : Course σ ε :=
  demands.foldl (meet net handler) course

end LineByLine

end RelayChat
