import RelayChat.Proofs.HostRecords

/-!
# Sockets that are ready

A wait comes to every socket of which the poller told (`wait_serves`). What has arrived on
a connection is asked for then, if the connection is read before and after (`wait_reads`).
Output that waits for room to write stays at the beginning of what its connection `Holds`,
whatever else happens, until it is given to the system or the connection is closed with it
(`Fate`). So when there is room it does not wait any longer (`wait_writes`).
-/

namespace RelayChat

open Relation

/-- Among what was added to a record since some point there is something of a kind. -/
def SomeSince {κ : Type} (P : κ → Prop) (before after : List κ) : Prop :=
  ∃ newer, after = newer ++ before ∧ ∃ entry ∈ newer, P entry

/-- What was added last was added since. -/
theorem SomeSince.cons {κ : Type} {P : κ → Prop} {entry : κ} (h : P entry) (before : List κ) :
    SomeSince P before (entry :: before) :=
  ⟨[entry], rfl, entry, List.mem_singleton_self entry, h⟩

/-- It is there still when more is added, and since any earlier point. -/
theorem SomeSince.mono {κ : Type} {P : κ → Prop} {before before' after after' : List κ}
    (h : SomeSince P before after) (hbefore : before' <:+ before) (hafter : after <:+ after') :
    SomeSince P before' after' := by
  obtain ⟨newer, rfl, entry, hmem, hentry⟩ := h
  obtain ⟨older, rfl⟩ := hbefore
  obtain ⟨later, rfl⟩ := hafter
  refine ⟨later ++ (newer ++ older), ?_, entry, ?_, hentry⟩
  · rw [List.append_assoc, List.append_assoc]
  · exact List.mem_append_right later (List.mem_append_left older hmem)

/-- The system is given output of a connection. -/
def Dealing.Gives (id : Handle) (output : List UInt8) : Dealing → Prop
  | .wrote k bytes _ => k = id ∧ output <+: bytes
  | _ => False

/-- A connection is closed with output that was not written. -/
def Entry.LeavesUnsent (id : Handle) (output : List UInt8) : Entry → Prop
  | .closed k _ unsent => k = id ∧ output <+: unsent
  | _ => False

instance (id : Handle) (output : List UInt8) : DecidablePred (Entry.LeavesUnsent id output)
  | .closed k _ unsent => inferInstanceAs (Decidable (k = id ∧ output <+: unsent))
  | .raised .. | .called .. | .received .. | .wrote .. | .writeFailed .. =>
    inferInstanceAs (Decidable False)

/-- A call adds to the output of a connection that is not to be closed. -/
theorem Connection.outbound_actOn (call : Outgoing String) (id : Handle) (c : Connection) :
    (call.actOn id c).outbound = c.outbound ++
      if c.closing = false then (Outgoing.heardBy id [call]).flatMap LossyUtf8.encode else [] := by
  cases call with
  | send who text =>
    by_cases hwho : who = id <;> cases hclosing : c.closing <;>
      simp [Outgoing.actOn, Outgoing.heardBy, offer, queue, hwho, hclosing]
  | broadcast text =>
    cases hclosing : c.closing <;>
      simp [Outgoing.actOn, Outgoing.heardBy, offer, queue, hclosing]
  | disconnect who =>
    by_cases hwho : who = id <;> simp [Outgoing.actOn, Outgoing.heardBy, hwho]

/-- Output of a connection of the table comes first of what waits there. -/
def Switchboard.Holds (id : Handle) (output : List UInt8) (board : Switchboard) : Prop :=
  ∃ c, board.get? id = some c ∧ output <+: c.outbound

namespace Switchboard.Holds

variable {id k : Handle} {output : List UInt8} {board : Switchboard} {c : Connection}

/-- Another connection is put into the table. -/
theorem put_of_ne (h : board.Holds id output) (hk : k ≠ id) : (board.put k c).Holds id output := by
  obtain ⟨c', hc', hbegins⟩ := h
  exact ⟨c', (get?_put.trans (if_neg hk)).trans hc', hbegins⟩

/-- A connection is put back with the output that it had. -/
theorem put (h : board.Holds id output) (hc : board.get? k = some c) {c' : Connection}
    (hsame : c'.outbound = c.outbound) : (board.put k c').Holds id output := by
  by_cases hk : k = id
  · subst hk
    obtain ⟨c'', hc'', hbegins⟩ := h
    cases hc.symm.trans hc''
    exact ⟨c', get?_put_self board k c', hsame ▸ hbegins⟩
  · exact h.put_of_ne hk

/-- Another connection leaves the table. -/
theorem remove_of_ne (h : board.Holds id output) (hk : k ≠ id) :
    (board.remove k).Holds id output := by
  obtain ⟨c, hc, hbegins⟩ := h
  exact ⟨c, (get?_remove.trans (if_neg hk)).trans hc, hbegins⟩

theorem mark (h : board.Holds id output) (k : Handle) : (board.mark k).Holds id output := by
  obtain ⟨c, hc, hbegins⟩ := h
  exact ⟨c, get?_mark.trans hc, hbegins⟩

/-- Calls add to the output. -/
theorem carryOut (h : board.Holds id output) (call : Outgoing String) :
    (board.carryOut call).Holds id output := by
  obtain ⟨c, hc, hbegins⟩ := h
  refine ⟨call.actOn id c, ?_, ?_⟩
  · rw [get?_carryOut, hc, Option.map_some]
  · rw [Connection.outbound_actOn]
    exact hbegins.trans (List.prefix_append _ _)

end Switchboard.Holds

namespace Multiplexer

variable {σ ε : Type} {handler : Handler σ} {start : σ} {id k : Handle} {c : Connection}
  {output : List UInt8}

section Serving

variable (net : Host ε) (handler : Handler σ) {m : Multiplexer σ ε} {sockets : List Readiness}
  {socket : Readiness}

/-- A wait comes to every socket of which the poller tells. -/
theorem wait_serves (hpoller : m.poller = true) (htold : (net.poll m.host).1 = .ready sockets)
    (hmem : socket ∈ sockets) :
    (socket.hangup = true → CanHangUp net socket.id) ∧
      ∃ before, ReflTransGen (Action net handler) m before ∧
        ReflTransGen (Action net handler) (serve net handler before socket)
          (wait net handler m).1 := by
  have hhangup : ∀ told ∈ sockets, told.hangup = true → CanHangUp net told.id :=
    fun told hmem hhangup => ⟨m.host, sockets, told, htold, hmem, rfl, hhangup⟩
  refine ⟨hhangup socket hmem, ?_⟩
  obtain ⟨earlier, later, rfl⟩ := List.append_of_mem hmem
  obtain ⟨hearlier, hothers⟩ := List.forall_mem_append.mp hhangup
  obtain ⟨-, hlater⟩ := List.forall_mem_cons.mp hothers
  rw [wait_of_poller hpoller, htold, dealt, List.foldl_append, List.foldl_cons]
  let polled := { m with host := (net.poll m.host).2 }
  have hpolled : Action net handler m polled := Action.asked Host.Asks.polled
  refine ⟨earlier.foldl (serve net handler) polled, ?_, ?_⟩
  · exact (ReflTransGen.single hpolled).trans
      (actions_of_rounds (serveEach_rounds net handler earlier hearlier polled))
  · exact actions_of_rounds ((serveEach_rounds net handler later hlater _).tail Round.settled)

/-- When there is room to write to a connection that has not ended, its output is written after
what has arrived on it was read. -/
theorem serve_of_room (hid : socket.id ≠ listenerHandle) (hopen : socket.hangup = false)
    (hroom : socket.writable = true) :
    ∃ after, ReflTransGen (Action net handler) m after ∧
      serve net handler m socket = writeAll net handler after socket.id := by
  have hserved : serve net handler m socket = writeAll net handler
      (if socket.readable then readAll net handler m socket.id else m) socket.id := by
    simp [serve, hid, hopen, hroom]
  refine ⟨_, ?_, hserved⟩
  split
  · exact readAll_actions net handler m socket.id
  · exact ReflTransGen.refl

end Serving

variable {net : Host ε} {m m' m'' : Multiplexer σ (ε × List Dealing)} {socket : Readiness}

/-! ## What has arrived -/

/-- The poller would tell that a connection is to be read, since something has arrived on it or
it has ended. -/
def IsReady {ε : Type} (net : Host ε) (id : Handle) (m : Multiplexer σ ε) : Prop :=
  id ≠ listenerHandle ∧ m.poller = true ∧ ∃ sockets, (net.poll m.host).1 = .ready sockets ∧
    ∃ socket ∈ sockets, socket.id = id ∧ (socket.readable || socket.hangup) = true

/-- A connection that is read before and after has been read all the time. -/
theorem accepts_between (hm : Consistent handler start m)
    (h : ReflTransGen (Action net.recorded handler) m m')
    (h' : ReflTransGen (Action net.recorded handler) m' m'')
    (hbefore : m.board.accepts id = true) (hafter : m''.board.accepts id = true) :
    m'.board.accepts id = true := by
  have hm' := hm.actions h
  have hm'' := hm'.actions h'
  obtain ⟨earlier, hearlier⟩ := journal_grows h
  obtain ⟨later, hlater⟩ := journal_grows h'
  rw [hm.accepts_iff] at hbefore
  rw [hm''.accepts_iff, ← hlater] at hafter
  have hlawful := hm''.lawful
  rw [← hlater] at hlawful
  rw [hm'.accepts_iff]
  rcases active_or_unseen_of_append hlawful hafter with hactive | hunseen
  · exact hactive
  · rw [← hearlier] at hunseen
    cases hbefore.symm.trans (unseen_of_append hunseen)

/-- The system is asked for the bytes of a connection that is ready and read. -/
theorem serve_reads (hid : socket.id ≠ listenerHandle)
    (hwanted : (socket.readable || socket.hangup) = true)
    (htold : socket.hangup = true → CanHangUp net.recorded socket.id)
    (haccepts : m.board.accepts socket.id = true) :
    ∃ answers, .read socket.id answers :: m.host.2 <:+
      (serve net.recorded handler m socket).host.2 := by
  have hrest := serve_rest net.recorded handler (m := m) hid htold
  rw [if_pos hwanted, readAll, if_pos haccepts] at hrest
  have hactions := (readEach_actions net.recorded handler socket.id _ _).trans
    (actions_of_rounds hrest)
  exact ⟨_, dealings_grow hactions⟩

/-- In a wait, the bytes of a connection that is ready are asked for, if it is read before and
after. -/
theorem wait_reads (hm : Consistent handler start m) (hready : IsReady net.recorded id m)
    (hbefore : m.board.accepts id = true)
    (hafter : (wait net.recorded handler m).1.board.accepts id = true) :
    ∃ newer answers, (wait net.recorded handler m).1.host.2 = newer ++ m.host.2 ∧
      .read id answers ∈ newer := by
  obtain ⟨hid, hpoller, sockets, htold, socket, hmem, rfl, hwanted⟩ := hready
  obtain ⟨hhangup, before, hstart, hend⟩ := wait_serves net.recorded handler hpoller htold hmem
  have hserved := actions_of_rounds (serve_rounds net.recorded handler (m := before) hhangup)
  obtain ⟨answers, hread⟩ : ∃ answers, .read socket.id answers :: before.host.2 <:+
      (serve net.recorded handler before socket).host.2 := serve_reads hid hwanted hhangup
    (accepts_between hm hstart (hserved.trans hend) hbefore hafter)
  obtain ⟨older, holder⟩ := dealings_grow hstart
  obtain ⟨newer, hnewer⟩ := hread.trans (dealings_grow hend)
  refine ⟨newer ++ .read socket.id answers :: older, answers, ?_, ?_⟩
  · rw [← hnewer, ← holder, List.append_assoc, List.cons_append]
  · exact List.mem_append_right newer List.mem_cons_self

/-! ## What is to go out -/

/-- The poller would tell that there is room to write to a connection, and not that the
connection has ended. -/
def HasRoom {ε : Type} (net : Host ε) (id : Handle) (m : Multiplexer σ ε) : Prop :=
  id ≠ listenerHandle ∧ m.poller = true ∧ ∃ sockets, (net.poll m.host).1 = .ready sockets ∧
    ∃ socket ∈ sockets, socket.id = id ∧ socket.hangup = false ∧ socket.writable = true

/-- Output that waits goes on to wait in the course of an event. -/
theorem holds_raise {m : Multiplexer σ ε} (h : m.board.Holds id output) (event : Event) :
    (raise handler m event).board.Holds id output :=
  raise_keeps (P := fun after => after.board.Holds id output) h fun call h => h.carryOut call

/-- What has become of output that waited. -/
inductive Fate (id : Handle) (output : List UInt8) (m m' : Multiplexer σ (ε × List Dealing)) :
    Prop where
  /-- It still waits. -/
  | waits (h : m'.board.Holds id output)
  /-- It was given to the system. -/
  | given (h : SomeSince (Dealing.Gives id output) m.host.2 m'.host.2)
  /-- The connection was closed with it. -/
  | unsent (h : SomeSince (Entry.LeavesUnsent id output) m.journal m'.journal)

/-- A connection leaves the table, maybe the one that the output waits for. -/
theorem holds_or_unsent {m : Multiplexer σ ε} (h : m.board.Holds id output)
    (hc : m.board.get? k = some c) (cause : Closing) :
    (m.board.remove k).Holds id output ∨
      Entry.LeavesUnsent id output (.closed k cause c.outbound) := by
  by_cases hk : k = id
  · subst hk
    obtain ⟨c', hc', hbegins⟩ := h
    cases hc.symm.trans hc'
    exact Or.inr ⟨rfl, hbegins⟩
  · exact Or.inl (h.remove_of_ne hk)

theorem fate_closed (h : m.board.Holds id output) (hc : m.board.get? k = some c)
    (cause : Closing) : Fate id output m (close handler m k cause) := by
  rw [close_of_get? hc]
  rcases holds_or_unsent h hc cause with hholds | hleaves
  · exact .waits (holds_raise hholds (.drop k))
  · refine .unsent ((SomeSince.cons hleaves m.journal).mono List.suffix_rfl ?_)
    exact raise_keeps (P := fun after => Entry.closed k cause c.outbound :: m.journal <:+
      after.journal) (List.suffix_cons _ _) fun _ hm => hm.trans (List.suffix_cons _ _)

theorem fate_deactivated (h : m.board.Holds id output) : Fate id output m m.deactivate := by
  have hkept : m.journal <:+ m.deactivate.journal ∧ (m.deactivate.board.Holds id output ∨
      SomeSince (Entry.LeavesUnsent id output) m.journal m.deactivate.journal) := by
    refine deactivate_keeps (P := fun after => m.journal <:+ after.journal ∧
      (after.board.Holds id output ∨
        SomeSince (Entry.LeavesUnsent id output) m.journal after.journal)) ?_ ?_
      ⟨List.suffix_rfl, Or.inl h⟩
    · rintro after k c hc ⟨hgrown, hholds | hunsent⟩
      · refine ⟨hgrown.trans (List.suffix_cons _ _), ?_⟩
        refine (holds_or_unsent hholds hc .deactivated).imp_right fun hleaves => ?_
        exact (SomeSince.cons hleaves after.journal).mono hgrown List.suffix_rfl
      · exact ⟨hgrown.trans (List.suffix_cons _ _),
          Or.inr (hunsent.mono List.suffix_rfl (List.suffix_cons _ _))⟩
    · rintro after hempty ⟨hgrown, ⟨c, hc, -⟩ | hunsent⟩
      · cases (hempty id).symm.trans hc
      · exact ⟨hgrown, Or.inr hunsent⟩
  rcases hkept.2 with hholds | hunsent
  · exact .waits hholds
  · exact .unsent hunsent

/-- Output that waits has one of these fates in every action. -/
theorem Action.fate (h : Action net.recorded handler m m') (hm : Consistent handler start m)
    (hholds : m.board.Holds id output) : Fate id output m m' := by
  cases h with
  | asked | read | listened | verbosity | skipped | taken => exact .waits hholds
  | deactivated => exact fate_deactivated hholds
  | call call => exact .waits (hholds.carryOut call)
  | admitted =>
    -- a connection that comes is not the one that the output waits for
    have hk : id < m.nextHandle := by
      obtain ⟨c, hc, -⟩ := hholds
      exact hm.get?_lt hc
    exact .waits (holds_raise (hholds.put_of_ne (Nat.ne_of_gt hk)) _)
  | received bytes hc => exact .waits (hholds.put hc rfl)
  | line text => exact .waits (holds_raise hholds _)
  | @wrote k c hc =>
    by_cases hk : k = id
    · subst hk
      obtain ⟨c', hc', hbegins⟩ := hholds
      cases hc.symm.trans hc'
      refine .given ?_
      rw [written_dealing]
      exact SomeSince.cons ⟨rfl, hbegins⟩ m.host.2
    · exact .waits (written_keeps (P := fun after => after.board.Holds id output)
        (hholds.put_of_ne hk) fun h => h)
  | armed hc => exact .waits (hholds.put hc rfl)
  | marked k => exact .waits (hholds.mark k)
  | closed hc => exact fate_closed hholds hc _

/-- So it has after any number of actions. -/
theorem fate_of_actions (h : ReflTransGen (Action net.recorded handler) m m')
    (hm : Consistent handler start m) (hholds : m.board.Holds id output) : Fate id output m m' := by
  induction h with
  | refl => exact .waits hholds
  | @tail m₁ m₂ hactions hlast ih =>
    have hlog : m.host.2 <:+ m₁.host.2 := dealings_grow hactions
    have hjournal : m.journal <:+ m₁.journal := journal_grows hactions
    have hlater : m₁.host.2 <:+ m₂.host.2 := dealings_grow (ReflTransGen.single hlast)
    cases ih with
    | waits hwaits =>
      cases hlast.fate (hm.actions hactions) hwaits with
      | waits hwaits => exact .waits hwaits
      | given hgiven => exact .given (hgiven.mono hlog List.suffix_rfl)
      | unsent hunsent => exact .unsent (hunsent.mono hjournal List.suffix_rfl)
    | given hgiven => exact .given (hgiven.mono List.suffix_rfl hlater)
    | unsent hunsent => exact .unsent (hunsent.mono List.suffix_rfl hlast.grows)

/-- Closing a connection asks the system for nothing. -/
theorem close_host {m : Multiplexer σ ε} (id : Handle) (cause : Closing) :
    (close handler m id cause).host = m.host := by
  cases hc : m.board.get? id with
  | none => rw [close, hc]
  | some c => exact (Calm.close hc cause).host

/-- When there is room, all that waits is given to the system. -/
theorem writeAll_gives (hholds : m.board.Holds id output) (hsome : output ≠ []) :
    SomeSince (Dealing.Gives id output) m.host.2 (writeAll net.recorded handler m id).host.2 := by
  obtain ⟨c, hc, hbegins⟩ := hholds
  have hout : ¬c.outbound.isEmpty = true := fun hempty =>
    hsome (List.prefix_nil.mp (List.isEmpty_iff.mp hempty ▸ hbegins))
  have hlog : (writeAll net.recorded handler m id).host.2 =
      (m.written net.recorded id c).host.2 := by
    unfold writeAll
    rw [hc]
    dsimp only
    rw [flush_of_not_isEmpty hout]
    dsimp only
    split
    · rw [close_host]
    · rfl
  rw [hlog, written_dealing]
  exact SomeSince.cons ⟨rfl, hbegins⟩ m.host.2

/-- In a wait, output for which there is room is given to the system, unless its connection is
closed with it. -/
theorem wait_writes (hm : Consistent handler start m) (hroom : HasRoom net.recorded id m)
    (hholds : m.board.Holds id output) (hsome : output ≠ []) :
    SomeSince (Dealing.Gives id output) m.host.2 (wait net.recorded handler m).1.host.2 ∨
      SomeSince (Entry.LeavesUnsent id output) m.journal
        (wait net.recorded handler m).1.journal := by
  obtain ⟨hid, hpoller, sockets, htold, socket, hmem, rfl, hopen, hwritable⟩ := hroom
  obtain ⟨-, before, hstart, hend⟩ := wait_serves net.recorded handler hpoller htold hmem
  obtain ⟨after, hread, hserved⟩ :=
    serve_of_room net.recorded handler (m := before) hid hopen hwritable
  rw [hserved] at hend
  have hrest := (writeAll_actions net.recorded handler after socket.id).trans hend
  have hbefore := hstart.trans hread
  cases fate_of_actions hbefore hm hholds with
  | waits hwaits =>
    have hgiven : SomeSince (Dealing.Gives socket.id output) after.host.2
        (writeAll net.recorded handler after socket.id).host.2 := writeAll_gives hwaits hsome
    exact Or.inl (hgiven.mono (dealings_grow hbefore) (dealings_grow hend))
  | given hgiven => exact Or.inl (hgiven.mono List.suffix_rfl (dealings_grow hrest))
  | unsent hunsent => exact Or.inr (hunsent.mono List.suffix_rfl (journal_grows hrest))

/-! ## A wait that follows a run -/

section Runs

variable (net : Host ε) (handler : Handler σ) (listen : ListenSettings) (start : σ) (host : ε)
  (demands : List (Demand ε)) (id : Handle)

theorem recordedRun_wait : recordedRun net handler listen start host (demands ++ [.wait]) =
    (wait net.recorded handler (recordedRun net handler listen start host demands)).1 := by
  rw [recordedRun, run, List.map_append, List.foldl_append]
  rfl

/-- The bytes of a connection that is ready are asked for. -/
theorem run_reads
    (hready : IsReady net id (run net handler (create listen start host) demands))
    (hbefore : (run net handler (create listen start host) demands).board.accepts id = true)
    (hafter : (run net handler (create listen start host)
      (demands ++ [.wait])).board.accepts id = true) :
    ∃ newer answers, dealings net handler listen start host (demands ++ [.wait]) =
      newer ++ dealings net handler listen start host demands ∧ .read id answers ∈ newer := by
  have hm := run_consistent net.recorded handler listen start (host, [])
    (demands.map Demand.recorded)
  rw [← recordedRun_onHost] at hready hbefore hafter
  rw [recordedRun_wait] at hafter
  rw [dealings, recordedRun_wait]
  exact wait_reads hm hready hbefore hafter

/-- All output for which there is room is given to the system, unless its connection is closed
with it. -/
theorem run_writes
    (hroom : HasRoom net id (run net handler (create listen start host) demands))
    (hc : (run net handler (create listen start host) demands).board.get? id = some c)
    (hsome : c.outbound ≠ []) :
    SomeSince (Dealing.Gives id c.outbound) (dealings net handler listen start host demands)
        (dealings net handler listen start host (demands ++ [.wait])) ∨
      SomeSince (Entry.LeavesUnsent id c.outbound)
        (run net handler (create listen start host) demands).journal
        (run net handler (create listen start host) (demands ++ [.wait])).journal := by
  have hm := run_consistent net.recorded handler listen start (host, [])
    (demands.map Demand.recorded)
  rw [← recordedRun_onHost] at hroom hc
  rw [← recordedRun_onHost, ← recordedRun_onHost, dealings, dealings, recordedRun_wait]
  exact wait_writes hm hroom ⟨c, hc, List.prefix_rfl⟩ hsome

end Runs

end Multiplexer

end RelayChat
