import RelayChat.Proofs.LineByLine

/-!
# Bounded buffers

Whatever a connection sends, its buffer never holds more than the bytes of one line and of one
attempt to read. Nothing complete is in the buffer when bytes arrive (`Switchboard.Calm`),
since the server has handed all lines on before it reads again; so what is there is within the
limit on lines, and the bytes of one attempt come on top of it. Only on a connection that is to
be closed lines stay in the buffer, and there nothing is read any more. This is followed through
the server that takes lines off one by one, for every table that it goes through (`Follows`),
and along with it that this server does what the other one does.
-/

namespace RelayChat

namespace Connection

variable {c c' : Connection}

/-- Nothing that is complete is in the buffer. -/
def Quiet (c : Connection) : Prop :=
  c.framer.drain c.inbound = ⟨c.framer, c.inbound, []⟩

theorem Quiet.drained_eq (h : c.Quiet) : c.drained = c := by
  rw [drained, h]

theorem quiet_drained (c : Connection) : c.drained.Quiet :=
  Framer.drain_drain c.framer c.inbound

theorem quiet_fresh : fresh.Quiet := by
  have h := quiet_drained fresh
  rwa [drained_fresh] at h

theorem Quiet.congr (h : c.Quiet) (hinbound : c'.inbound = c.inbound)
    (hframer : c'.framer = c.framer) : c'.Quiet := by
  rw [Quiet, hinbound, hframer, h]

theorem buffered_congr (hinbound : c'.inbound = c.inbound) (hframer : c'.framer = c.framer) :
    c'.buffered = c.buffered := by
  rw [buffered, hinbound, hframer, buffered]

/-- The most bytes that a buffer ever holds: those of a line that is not complete, and those of
one attempt to read. -/
def bufferLimit : Nat :=
  Framer.standardLimit + receiveSize

/-- The framer of a connection has the standard limit and has searched nothing but what is
there, and the buffer is within its bound. -/
structure Sound (c : Connection) : Prop where
  /-- The limit on lines is the standard one. -/
  limit : c.framer.limit = Framer.standardLimit
  /-- What was searched is there, and there was no line end in it. -/
  searched : c.framer.Searched c.inbound
  /-- The buffer is within its bound. -/
  bounded : c.inbound.length ≤ bufferLimit

theorem sound_fresh : fresh.Sound :=
  ⟨rfl, Framer.searched_start rfl, Nat.zero_le _⟩

namespace Sound

theorem congr (h : c.Sound) (hinbound : c'.inbound = c.inbound) (hframer : c'.framer = c.framer) :
    c'.Sound := by
  refine ⟨?_, ?_, ?_⟩
  · rw [hframer, h.limit]
  · rw [hframer, hinbound]
    exact h.searched
  · rw [hinbound]
    exact h.bounded

/-- The bytes of one attempt to read fit when nothing complete is in the buffer. -/
theorem gather (h : c.Sound) (hquiet : c.Quiet) (piece : Piece) :
    (c.gather piece.bytes).Sound := by
  refine ⟨h.limit, h.searched.append piece.bytes, ?_⟩
  have hfew : c.inbound.length ≤ Framer.standardLimit := by
    have hdrained := Framer.length_drain_le c.framer c.inbound
    rwa [hquiet, h.limit] at hdrained
  have hpiece := piece.length_le
  rw [Connection.gather, bufferLimit, List.length_append]
  omega

theorem readLine (h : c.Sound) : c.readLine.1.Sound := by
  refine Framer.nextLine_keeps (P := fun f buffer =>
    Sound { c with inbound := buffer, framer := f }) (fun f buffer hcall => ⟨?_, ?_, ?_⟩) h
  · exact (Framer.limit_next f buffer).trans hcall.limit
  · exact Framer.searched_next hcall.searched
  · exact Nat.le_trans (Framer.buffer_next_suffix f buffer).length_le hcall.bounded

end Sound

end Connection

namespace Switchboard

variable {board board' : Switchboard} {id k : Handle} {c : Connection}

/-- No buffer holds more bytes than that. -/
def Within (limit : Nat) (board : Switchboard) : Prop :=
  ∀ id c, board.get? id = some c → c.inbound.length ≤ limit

/-- All connections are sound. -/
def AllSound (board : Switchboard) : Prop :=
  ∀ id c, board.get? id = some c → c.Sound

namespace AllSound

theorem within (h : board.AllSound) : board.Within Connection.bufferLimit :=
  fun id c hc => (h id c hc).bounded

theorem kept (h : board.AllSound) (hkept : board.InputKept board') : board'.AllSound := by
  intro id c' hc'
  obtain ⟨c, hc, hinbound, hframer, -⟩ := hkept id c' hc'
  exact (h id c hc).congr hinbound hframer

theorem put (h : board.AllSound) (hc : c.Sound) : (board.put id c).AllSound := by
  intro k c' hc'
  rw [get?_put] at hc'
  split at hc'
  · cases hc'
    exact hc
  · exact h k c' hc'

end AllSound

/-- Nothing complete is in the buffers of connections that are not to be closed. -/
def Calm (board : Switchboard) : Prop :=
  ∀ id c, board.get? id = some c → c.closing = false → c.Quiet

namespace Calm

theorem kept (h : board.Calm) (hkept : board.InputKept board') : board'.Calm := by
  intro id c' hc' hopen
  obtain ⟨c, hc, hinbound, hframer, hclosing⟩ := hkept id c' hc'
  exact (h id c hc (hclosing hopen)).congr hinbound hframer

theorem put (h : board.Calm) (hc : c.Quiet) : (board.put id c).Calm := by
  intro k c' hc' hopen
  rw [get?_put] at hc'
  split at hc'
  · cases hc'
    exact hc
  · exact h k c' hc' hopen

end Calm

/-- So it is but for one connection. -/
def CalmBut (id : Handle) (board : Switchboard) : Prop :=
  ∀ k c, board.get? k = some c → c.closing = false → k = id ∨ c.Quiet

namespace CalmBut

/-- It is so for that one as well. -/
theorem calm (h : board.CalmBut id)
    (hid : ∀ c, board.get? id = some c → c.closing = false → c.Quiet) : board.Calm := by
  intro k c hc hopen
  rcases h k c hc hopen with rfl | hquiet
  · exact hid c hc hopen
  · exact hquiet

theorem put (h : board.CalmBut id) (c : Connection) : (board.put id c).CalmBut id := by
  intro k c' hc' hopen
  rw [get?_put] at hc'
  split at hc'
  · rename_i hk
    exact Or.inl hk.symm
  · exact h k c' hc' hopen

theorem kept (h : board.CalmBut id) (hkept : board.InputKept board') : board'.CalmBut id := by
  intro k c' hc' hopen
  obtain ⟨c, hc, hinbound, hframer, hclosing⟩ := hkept k c' hc'
  exact (h k c hc (hclosing hopen)).imp_right fun hquiet => hquiet.congr hinbound hframer

end CalmBut

end Switchboard

/-- Lines of a connection that has left, or is to be closed, are not handed on. -/
theorem Multiplexer.dispatch_of_not_accepts {σ ε : Type} {net : Host ε} {handler : Handler σ}
    {m : Multiplexer σ ε} {id : Handle} (lines : List String) (h : m.board.accepts id = false) :
    dispatch net handler id lines m = m := by
  cases lines with
  | nil => rfl
  | cons line lines => rw [dispatch, h, if_neg Bool.false_ne_true]

namespace LineByLine

open Multiplexer (raise settle close acceptArrivals writeAll listenerHandle Demand)

variable {σ ε : Type} {net : Host ε} {handler : Handler σ} {m m' : Multiplexer σ ε}
  {course : Course σ ε} {id : Handle} {c : Connection}

/-! ## What becomes of the lines in a buffer -/

/-- The lines of a connection that can be taken off. -/
def bufferedOf (m : Multiplexer σ ε) (id : Handle) : List String :=
  ((m.board.get? id).map Connection.buffered).getD []

theorem bufferedOf_of_get? (hc : m.board.get? id = some c) : bufferedOf m id = c.buffered := by
  rw [bufferedOf, hc]
  rfl

/-- A connection is put back with lines taken off that could be taken off. -/
theorem drained_put (hc : m.board.get? id = some c) {c' : Connection}
    (hdrained : c'.drained = c.drained) :
    ({ m with board := m.board.put id c' } : Multiplexer σ ε).drained = m.drained := by
  have hsame : m.drained.board.get? id = some c.drained := by
    rw [Multiplexer.get?_drained_board, hc, Option.map_some]
  rw [Multiplexer.drained]
  dsimp only
  rw [Switchboard.put_drained, hdrained]
  exact congrArg (fun board => { m with board := board }) (Switchboard.put_of_get? hsame)

/-- Lines taken off one by one are handed on as they are when all have been taken off at once. -/
theorem dispatch_drained (net : Host ε) (handler : Handler σ) (id : Handle)
    (course : Course σ ε) :
    (dispatch net handler id course).server.drained =
      Multiplexer.dispatch net handler id (bufferedOf course.server id) course.server.drained := by
  fun_induction dispatch net handler id course with
  | case1 course hc =>
    rw [bufferedOf, hc]
    rfl
  | case2 course c hc hclosing =>
    rw [Multiplexer.dispatch_of_not_accepts]
    rw [Multiplexer.accepts_drained, Switchboard.accepts, hc]
    simp [hclosing]
  | case3 course c hc hopen after hline =>
    obtain ⟨hnone, hread⟩ := Connection.readLine_eq_none hline
    rw [bufferedOf_of_get? hc, hnone]
    refine drained_put hc ?_
    rw [hread, (Connection.quiet_drained c).drained_eq]
  | case4 course c hc hopen after line hline ih =>
    obtain ⟨hlines, hread, -⟩ := Connection.readLine_eq_some hline
    have hafter : after.server.drained = course.server.drained := drained_put hc hread
    have haccepts : course.server.drained.board.accepts id = true := by
      rw [Multiplexer.accepts_drained, Switchboard.accepts, hc]
      simpa using hopen
    let answered := settle net handler (raise handler after.server (.line id line))
    have hanswered : answered.drained =
        settle net handler (raise handler course.server.drained (.line id line)) := by
      rw [← hafter, ← Multiplexer.raise_drained, ← Multiplexer.settle_drained]
    rw [ih, bufferedOf_of_get? hc, hlines, Multiplexer.dispatch, if_pos haccepts, ← hanswered]
    change Multiplexer.dispatch net handler id (bufferedOf answered id) answered.drained = _
    -- the connection has left, or it has the lines that were left when this one was taken off
    cases hc' : answered.board.get? id with
    | none =>
      have hnot : answered.drained.board.accepts id = false := by
        rw [Multiplexer.accepts_drained, Switchboard.accepts, hc']
        rfl
      rw [Multiplexer.dispatch_of_not_accepts _ hnot, Multiplexer.dispatch_of_not_accepts _ hnot]
    | some c' =>
      obtain ⟨c₁, hc₁, hinbound, hframer, -⟩ :=
        Multiplexer.inputKept_answer net handler after.server (.line id line) id c' hc'
      cases (Switchboard.get?_put_self course.server.board id c.readLine.1).symm.trans hc₁
      rw [bufferedOf_of_get? hc', Connection.buffered_congr hinbound hframer]

/-! ## All tables are within their bounds -/

/-- The connections are sound, and the buffers were within their bounds in all tables on the
way. -/
structure Course.Sound (course : Course σ ε) : Prop where
  /-- The connections are sound. -/
  connections : course.server.board.AllSound
  /-- The buffers were within their bounds. -/
  tables : ∀ board ∈ course.tables, board.Within Connection.bufferLimit

theorem Course.Sound.go (h : course.Sound) (hm : m.board.AllSound) : (course.go m).Sound :=
  ⟨hm, List.forall_mem_cons.mpr ⟨hm.within, h.tables⟩⟩

theorem dispatch_sound (h : course.Sound) : (dispatch net handler id course).Sound := by
  fun_induction dispatch net handler id course with
  | case1 => exact h
  | case2 => exact h
  | case3 course c hc hopen after hline =>
    exact h.go (h.connections.put (h.connections id c hc).readLine)
  | case4 course c hc hopen after line hline ih =>
    have hafter : after.Sound := h.go (h.connections.put (h.connections id c hc).readLine)
    exact ih (hafter.go (hafter.connections.kept (Multiplexer.inputKept_answer net handler _ _)))

/-- When the lines of a connection have been handed on, nothing complete is in its buffer. -/
theorem dispatch_calm (h : course.server.board.CalmBut id) :
    (dispatch net handler id course).server.board.Calm := by
  fun_induction dispatch net handler id course with
  | case1 course hc => exact h.calm fun c hc' => nomatch hc.symm.trans hc'
  | case2 course c hc hclosing =>
    refine h.calm fun c' hc' hopen => ?_
    cases hc.symm.trans hc'
    cases hclosing.symm.trans hopen
  | case3 course c hc hopen after hline =>
    refine (h.put c.readLine.1).calm fun c' hc' _ => ?_
    cases (Switchboard.get?_put_self course.server.board id c.readLine.1).symm.trans hc'
    rw [(Connection.readLine_eq_none hline).2]
    exact Connection.quiet_drained c
  | case4 course c hc hopen after line hline ih =>
    exact ih ((h.put c.readLine.1).kept (Multiplexer.inputKept_answer net handler after.server _))

/-! ## Both servers go on alike -/

/-- Between two attempts to read, the server that takes lines off one by one is sound, nothing
complete is in its buffers, and it is the other server but for the rest of what connections have
sent that are to be closed. -/
structure Follows (course : Course σ ε) (m : Multiplexer σ ε) : Prop where
  /-- All buffers are and were within their bounds. -/
  sound : course.Sound
  /-- Nothing complete is in the buffers. -/
  calm : course.server.board.Calm
  /-- Without what is complete it is the other server. -/
  drained : course.server.drained = m

namespace Follows

/-- The buffers are left alone. -/
theorem go (h : Follows course m) {after : Multiplexer σ ε}
    (hkept : course.server.board.InputKept after.board) (hdrained : after.drained = m') :
    Follows (course.go after) m' :=
  ⟨h.sound.go (h.sound.connections.kept hkept), h.calm.kept hkept, hdrained⟩

theorem settle (h : Follows course m) :
    Follows (course.go (settle net handler course.server)) (settle net handler m) := by
  refine h.go (Multiplexer.inputKept_settle net handler _) ?_
  rw [Multiplexer.settle_drained, h.drained]

theorem close (h : Follows course m) (id : Handle) (cause : Closing) :
    Follows (course.go (close handler course.server id cause)) (close handler m id cause) := by
  refine h.go (Multiplexer.inputKept_close handler _ id cause) ?_
  rw [Multiplexer.close_drained, h.drained]

theorem writeAll (h : Follows course m) (id : Handle) :
    Follows (course.go (writeAll net handler course.server id)) (writeAll net handler m id) := by
  refine h.go (Multiplexer.inputKept_writeAll net handler _ id) ?_
  rw [Multiplexer.writeAll_drained, h.drained]

end Follows

/-- Connections that come have nothing in their buffers. -/
theorem acceptEach_keeps (answers : List AcceptAnswer) (hsound : m.board.AllSound)
    (hcalm : m.board.Calm) :
    (Multiplexer.acceptEach net handler answers m).board.AllSound ∧
      (Multiplexer.acceptEach net handler answers m).board.Calm := by
  induction answers generalizing m with
  | nil => exact ⟨hsound, hcalm⟩
  | cons answer answers ih =>
    cases answer with
    | arrived watched =>
      cases watched with
      | true =>
        have hkept := Multiplexer.inputKept_answer net handler
          { m with nextHandle := m.nextHandle + 1,
                   board := m.board.put m.nextHandle Connection.fresh } (.connect m.nextHandle)
        exact ih ((hsound.put Connection.sound_fresh).kept hkept)
          ((hcalm.put Connection.quiet_fresh).kept hkept)
      | false => exact ih (m := { m with nextHandle := m.nextHandle + 1 }) hsound hcalm
    | interrupted => exact ih hsound hcalm
    | failed => exact ⟨hsound, hcalm⟩

theorem Follows.acceptArrivals (h : Follows course m) :
    Follows (course.go (acceptArrivals net handler course.server))
      (acceptArrivals net handler m) := by
  have hdrained : (Multiplexer.acceptArrivals net handler course.server).drained =
      Multiplexer.acceptArrivals net handler m := by
    rw [Multiplexer.acceptArrivals_drained, h.drained]
  have hkeeps : (Multiplexer.acceptArrivals net handler course.server).board.AllSound ∧
      (Multiplexer.acceptArrivals net handler course.server).board.Calm := by
    unfold Multiplexer.acceptArrivals
    split
    · exact ⟨h.sound.connections, h.calm⟩
    · exact acceptEach_keeps (m := { course.server with host := (net.accept course.server.host).2 })
        _ h.sound.connections h.calm
  exact ⟨h.sound.go hkeeps.1, hkeeps.2, hdrained⟩

/-- When bytes arrive on a connection that is not to be closed, nothing complete is in its
buffer, so that there is room for them. -/
theorem Follows.takeIn (h : Follows course m) (hc : course.server.board.get? id = some c)
    (hopen : c.closing = false) (piece : Piece) :
    Follows (takeIn net handler course id c piece.bytes)
      (Multiplexer.takeIn net handler m id c.drained piece.bytes) := by
  let gathered : Multiplexer σ ε :=
    { course.server with board := course.server.board.put id (c.gather piece.bytes) }.record
      (.received id piece.bytes)
  have hquiet : c.Quiet := h.calm id c hc hopen
  have hroom : (course.go gathered).Sound :=
    h.sound.go (h.sound.connections.put ((h.sound.connections id c hc).gather hquiet piece))
  have hbut : gathered.board.CalmBut id :=
    Switchboard.CalmBut.put (fun k c hc hopen => Or.inr (h.calm k c hc hopen)) _
  refine ⟨dispatch_sound hroom, dispatch_calm hbut, ?_⟩
  have hlines : bufferedOf gathered id = (c.gather piece.bytes).buffered :=
    bufferedOf_of_get? (Switchboard.get?_put_self course.server.board id _)
  have hgathered : gathered.drained =
      { m with board := m.board.put id (c.gather piece.bytes).drained }.record
        (.received id piece.bytes) := by
    rw [← h.drained]
    simp only [gathered, Multiplexer.drained, Multiplexer.record, Switchboard.put_drained]
  rw [LineByLine.takeIn, dispatch_drained]
  change Multiplexer.dispatch net handler id (bufferedOf gathered id) gathered.drained = _
  rw [hlines, hgathered, Multiplexer.takeIn, hquiet.drained_eq, Connection.receive_eq]

theorem Follows.readEach (answers : List ReadAnswer) (h : Follows course m) :
    Follows (readEach net handler id answers course)
      (Multiplexer.readEach net handler id answers m) := by
  induction answers generalizing course m with
  | nil => exact h
  | cons answer answers ih =>
    rw [LineByLine.readEach, Multiplexer.readEach, ← h.drained, Multiplexer.get?_drained_board]
    cases hc : course.server.board.get? id with
    | none => exact ⟨h.sound, h.calm, rfl⟩
    | some c =>
      rw [Option.map_some, h.drained]
      dsimp only
      change Follows _ (if c.closing then _ else _)
      split
      · exact h
      · rename_i hopen
        cases answer with
        | received piece => exact ih (h.takeIn hc (Bool.eq_false_iff.mpr hopen) piece)
        | interrupted => exact ih h
        | finished => exact h.close id .readEnded
        | failed => exact h.close id .readEnded

theorem Follows.readAll (h : Follows course m) (id : Handle) :
    Follows (readAll net handler course id) (Multiplexer.readAll net handler m id) := by
  obtain ⟨hsound, hcalm, rfl⟩ := h
  unfold LineByLine.readAll Multiplexer.readAll
  rw [Multiplexer.accepts_drained]
  split
  · let read : Course σ ε :=
      course.go { course.server with host := (net.read course.server.host id).2 }
    have hread : Follows read read.server.drained :=
      ⟨hsound.go hsound.connections, hcalm, rfl⟩
    exact hread.readEach _
  · exact ⟨hsound, hcalm, rfl⟩

theorem Follows.serve (h : Follows course m) (socket : Readiness) :
    Follows (serve net handler course socket) (Multiplexer.serve net handler m socket) := by
  unfold LineByLine.serve Multiplexer.serve
  split
  · exact h.acceptArrivals
  · have hread : Follows
        (if socket.readable || socket.hangup then LineByLine.readAll net handler course socket.id
          else course)
        (if socket.readable || socket.hangup then Multiplexer.readAll net handler m socket.id
          else m) := by
      split
      · exact h.readAll socket.id
      · exact h
    dsimp only
    split
    · exact hread.close socket.id .hungUp
    · split
      · exact hread.writeAll socket.id
      · exact hread

theorem Follows.serveEach (sockets : List Readiness) (h : Follows course m) :
    Follows (sockets.foldl (LineByLine.serve net handler) course)
      (sockets.foldl (Multiplexer.serve net handler) m) := by
  induction sockets generalizing course m with
  | nil => exact h
  | cons socket sockets ih => exact ih (h.serve socket)

theorem Follows.wait (h : Follows course m) :
    Follows (wait net handler course) (Multiplexer.wait net handler m).1 := by
  obtain ⟨hsound, hcalm, rfl⟩ := h
  have hpoller : course.server.drained.poller = course.server.poller := rfl
  have hhost : course.server.drained.host = course.server.host := rfl
  unfold LineByLine.wait Multiplexer.wait
  rw [hpoller, hhost]
  split
  · exact ⟨hsound, hcalm, rfl⟩
  · obtain ⟨answer, host⟩ := net.poll course.server.host
    let waited : Course σ ε := course.go { course.server with host := host }
    have hwaited : Follows waited waited.server.drained :=
      ⟨hsound.go hsound.connections, hcalm, rfl⟩
    cases answer with
    | interrupted => exact hwaited
    | failed source => exact hwaited
    | ready sockets => exact (hwaited.serveEach sockets).settle

theorem Follows.meet (h : Follows course m) (demand : Demand ε) :
    Follows (meet net handler course demand) (m.meet net handler demand) := by
  obtain ⟨hsound, hcalm, rfl⟩ := h
  have h : Follows course course.server.drained := ⟨hsound, hcalm, rfl⟩
  cases demand with
  | activate =>
    exact h.go (Multiplexer.inputKept_activate net _) (Multiplexer.activate_drained net _)
  | deactivate =>
    exact h.go (Multiplexer.inputKept_deactivate _) (Multiplexer.deactivate_drained _)
  | wait => exact h.wait
  | setVerbosity level =>
    exact h.go (Multiplexer.inputKept_setVerbosity _ level)
      (Multiplexer.setVerbosity_drained _ level)
  | call calls =>
    exact h.go (Multiplexer.inputKept_callAll net handler _ calls)
      (Multiplexer.callAll_drained net _ calls)
  | meanwhile change => exact h.go (.refl _) rfl

theorem Follows.run (demands : List (Demand ε)) (h : Follows course m) :
    Follows (run net handler course demands) (m.run net handler demands) := by
  induction demands generalizing course m with
  | nil => exact h
  | cons demand demands ih => exact ih (h.meet demand)

/-- Both servers begin alike. -/
theorem follows_create (listen : ListenSettings) (start : σ) (host : ε) :
    Follows (.start (.create listen start host) : Course σ ε) (.create listen start host) := by
  have hnone : ∀ (id : Handle) (c : Connection), Switchboard.empty.get? id ≠ some c := by
    intro id c hc
    rw [Switchboard.get?_empty] at hc
    cases hc
  have hsound : Switchboard.empty.AllSound := fun id c hc => absurd hc (hnone id c)
  refine ⟨⟨hsound, ?_⟩, fun id c hc => absurd hc (hnone id c), ?_⟩
  · exact List.forall_mem_singleton.mpr hsound.within
  · exact congrArg (fun board => { Multiplexer.create listen start host with board := board })
      Switchboard.drained_empty

/-- Calls of a framer begin within its buffer, miss no line end and come to an end, in whatever
pieces bytes arrive. A server that takes lines off one by one goes through no table with more
than 1024 bytes in a buffer, and does what the other server does, but for the lines that stay
with connections that are to be closed. -/
theorem buffers_bounded :
    (∀ (limit : Nat) (turns : List Framer.Turn),
      let now := (Framer.withLimit limit).reach [] turns
      let called := now.1.next now.2
      (∀ f buffer, Framer.Searches now.1 now.2 f buffer →
        f.scanned ≤ buffer.length ∧ Framer.Unbroken (buffer.take f.scanned)) ∧
      (called.found ≠ .nothing → called.buffer.length < now.2.length) ∧
      (called.found = .nothing →
        Framer.Unbroken called.buffer ∧ called.buffer.length ≤ limit)) ∧
    (∀ (f : Framer) (buffer : List UInt8),
      (∃ n ≤ buffer.length, (∀ k < n, f.foundBy buffer k ≠ .nothing) ∧
        f.foundBy buffer n = .nothing ∧
        (f.drain buffer).found = (List.range n).map (f.foundBy buffer)) ∧
      ∃ n ≤ buffer.length, (∀ k < n, ∃ error, f.foundBy buffer k = .tooLong error) ∧
        (∀ error, f.foundBy buffer n ≠ .tooLong error) ∧
        (f.nextLine buffer).line = (f.foundBy buffer n).text?) ∧
    ∀ (σ ε : Type) (net : Host ε) (handler : Handler σ) (listen : ListenSettings) (start : σ)
      (host : ε) (demands : List (Demand ε)),
      let course := run net handler (.start (.create listen start host)) demands
      (∀ board ∈ course.tables, ∀ id c, board.get? id = some c → c.inbound.length ≤ 1024) ∧
        course.server.drained = (Multiplexer.create listen start host).run net handler demands := by
  refine ⟨fun limit turns => ?_, fun f buffer => ⟨?_, ?_⟩,
    fun σ ε net handler listen start host demands => ?_⟩
  · have hstart : (Framer.withLimit limit).Searched [] := Framer.searched_start rfl
    have hsearched := Framer.searched_reach turns hstart
    have hlimit := Framer.limit_reach turns (Framer.withLimit limit) []
    refine ⟨fun f buffer hsearches => ?_, Framer.next_buffer_lt _ _, fun hnothing => ?_⟩
    · obtain ⟨hwithin, hunbroken⟩ := Framer.searched_of_searches hsearches hsearched
      exact ⟨hwithin, hunbroken⟩
    · have hshort := Framer.length_next_le hnothing
      rw [hlimit] at hshort
      exact ⟨Framer.unbroken_next hsearched hnothing, hshort⟩
  · obtain ⟨n, hn, hfound, hnothing, hdrain, -⟩ := Framer.drain_calls f buffer
    exact ⟨n, hn, hfound, hnothing, hdrain⟩
  · obtain ⟨n, hn, hlong, hother, hline, -⟩ := Framer.nextLine_calls f buffer
    exact ⟨n, hn, hlong, hother, hline⟩
  · have hfollows : Follows (run net handler (.start (.create listen start host)) demands)
        ((Multiplexer.create listen start host).run net handler demands) :=
      (follows_create listen start host).run demands
    exact ⟨hfollows.sound.tables, hfollows.drained⟩

end LineByLine

end RelayChat
