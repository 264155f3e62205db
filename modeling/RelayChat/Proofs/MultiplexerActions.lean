import Mathlib.Logic.Relation
import RelayChat.Multiplexer
import RelayChat.Proofs.SwitchboardLookup

/-!
# Elementary actions of the multiplexer

Whatever is asked of a server, it does a few elementary things: it raises an event, it
makes a call, it moves bytes of one connection, it lets a connection in or closes one.
`Multiplexer.Action` lists them with their guards, and with what is asked of the system
meanwhile. The few of them that applying changes consists of are its `Chore`s. An
invariant has to survive no more than these actions (`keeps_of_steps`), and of an action
that does several things no more than each of them (`raise_keeps`, `written_keeps`,
`deactivate_keeps`, `dispatch_keeps`, `writeAll_keeps`).
-/

namespace RelayChat

open Relation

/-- The system is asked for something by which no bytes are moved and no connection is
watched otherwise: to bind an endpoint, to wait, to accept connections, or to watch a
connection, which it refuses. -/
inductive Host.Asks {ε : Type} (net : Host ε) : ε → ε → Prop where
  /-- It binds an endpoint, or refuses to. -/
  | bound {host : ε} (wanted : Endpoint) : Asks net host (net.bind host wanted).2
  /-- It waits for activity. -/
  | polled {host : ε} : Asks net host (net.poll host).2
  /-- It accepts connections. -/
  | accepted {host : ε} : Asks net host (net.accept host).2
  /-- It refuses to watch a connection. -/
  | refused {host : ε} {id : Handle} {writes : Bool} (h : (net.arm host id writes).1 = false) :
      Asks net host (net.arm host id writes).2

namespace Multiplexer

variable {σ ε : Type}

/-! ## What can be asked of a server -/

/-- What is asked of a server from outside, or happens to the system meanwhile. -/
inductive Demand (ε : Type) where
  /-- Begin to listen. -/
  | activate
  /-- Close everything. -/
  | deactivate
  /-- Wait for activity and deal with it. -/
  | wait
  /-- Choose how much is logged. -/
  | setVerbosity (level : Nat)
  /-- Make calls. -/
  | call (calls : List (Outgoing String))
  /-- Nothing is asked, and the system changes. -/
  | meanwhile (change : ε → ε)

/-- The server after a demand. -/
def meet (net : Host ε) (handler : Handler σ) (m : Multiplexer σ ε) :
    Demand ε → Multiplexer σ ε
  | .activate => (m.activate net).1
  | .deactivate => m.deactivate
  | .wait => (m.wait net handler).1
  | .setVerbosity level => (m.setVerbosity level).1
  | .call calls => m.callAll net handler calls
  | .meanwhile change => { m with host := change m.host }

/-- The server after a series of demands. -/
def run (net : Host ε) (handler : Handler σ) (m : Multiplexer σ ε)
    (demands : List (Demand ε)) : Multiplexer σ ε :=
  demands.foldl (meet net handler) m

/-- What comes of an attempt to listen: the server afterwards, and the error if it failed. -/
inductive Activated (net : Host ε) (m : Multiplexer σ ε) :
    Multiplexer σ ε × Except ServerError Unit → Prop where
  /-- The server listens already. -/
  | already (hpoller : m.poller = true) : Activated net m (m, .ok ())
  /-- The settings name no endpoint. -/
  | unsettled {problem : String} (hpoller : m.poller = false)
      (hwanted : m.listen.endpoint = .error (.settings problem)) :
      Activated net m (m, .error (.settings problem))
  /-- The system refuses the endpoint. -/
  | unbound {wanted : Endpoint} {source : String} {host : ε} (hpoller : m.poller = false)
      (hbind : net.bind m.host wanted = (.error source, host)) :
      Activated net m ({ m with host := host }, .error (.bind wanted.render source))
  /-- The server listens now. -/
  | listens {wanted bound : Endpoint} {host : ε} (hpoller : m.poller = false)
      (hbind : net.bind m.host wanted = (.ok bound, host)) :
      Activated net m ({ m with host := host, poller := true, listener := some bound }, .ok ())

/-- Settings that name no endpoint are told as such. -/
theorem settings_of_endpoint {listen : ListenSettings} {e : ServerError}
    (h : listen.endpoint = .error e) : ∃ problem, e = .settings problem := by
  unfold ListenSettings.endpoint at h
  split at h
  · cases h
  · split at h
    · cases h
    · cases h
      exact ⟨_, rfl⟩

theorem activated (net : Host ε) (m : Multiplexer σ ε) : Activated net m (m.activate net) := by
  unfold activate
  split
  · rename_i hpoller
    exact Activated.already hpoller
  · rename_i hpoller
    have hpoller : m.poller = false := Bool.eq_false_iff.mpr hpoller
    split
    · rename_i e hwanted
      obtain ⟨problem, rfl⟩ := settings_of_endpoint hwanted
      exact Activated.unsettled hpoller hwanted
    · split
      · rename_i hbind
        exact Activated.unbound hpoller hbind
      · rename_i hbind
        exact Activated.listens hpoller hbind

/-- An attempt to listen changes the system, and the server only if it succeeds. -/
theorem activate_cases (net : Host ε) (m : Multiplexer σ ε) :
    ∃ host, (m.activate net).1 = { m with host := host } ∨
      ∃ bound, (m.activate net).1 =
        { m with host := host, poller := true, listener := some bound } := by
  have hactivated := activated net m
  generalize m.activate net = result at hactivated ⊢
  cases hactivated with
  | already => exact ⟨m.host, Or.inl rfl⟩
  | unsettled => exact ⟨m.host, Or.inl rfl⟩
  | unbound => exact ⟨_, Or.inl rfl⟩
  | listens => exact ⟨_, Or.inr ⟨_, rfl⟩⟩

theorem setVerbosity_cases (m : Multiplexer σ ε) (level : Nat) :
    ∃ verbosity, (m.setVerbosity level).1 = { m with verbosity := verbosity } := by
  unfold setVerbosity
  split
  · exact ⟨_, rfl⟩
  · exact ⟨m.verbosity, rfl⟩

/-! ## What it does -/

/-- The poller can tell that a connection has ended. -/
def CanHangUp (net : Host ε) (id : Handle) : Prop :=
  ∃ host sockets socket, (net.poll host).1 = .ready sockets ∧ socket ∈ sockets ∧
    socket.id = id ∧ socket.hangup = true

/-- The poller never refuses to watch a connection. -/
def NeverRefuses (net : Host ε) (id : Handle) : Prop :=
  ∀ host writes, (net.arm host id writes).1 = true

/-- A connection may be closed for a cause. -/
def MayClose (net : Host ε) (m : Multiplexer σ ε) (id : Handle) (c : Connection) :
    Closing → Prop
  | .finished => c.closing = true ∧ c.outbound = []
  | .readEnded => c.closing = false
  | .hungUp => CanHangUp net id
  | .writeFailed => m.journal.head? = some (.writeFailed id)
  | .unwatched => ∃ host writes, (net.arm host id writes).1 = false
  | .deactivated => False

/-- What comes of the output of a connection when the system is asked to write it. -/
def flushed (net : Host ε) (m : Multiplexer σ ε) (id : Handle) (c : Connection) :
    Connection.Flushed :=
  Connection.flush c.outbound (net.write m.host id c.outbound).1

/-- The server when the bytes that a burst of writes took have been noted. -/
def wroteOut (net : Host ε) (m : Multiplexer σ ε) (id : Handle) (c : Connection) :
    Multiplexer σ ε :=
  { m with host := (net.write m.host id c.outbound).2,
           board := m.board.put id { c with outbound := (m.flushed net id c).left } }.record
    (.wrote id (m.flushed net id c).written)

/-- The server after a burst of writes to a connection. -/
def written (net : Host ε) (m : Multiplexer σ ε) (id : Handle) (c : Connection) :
    Multiplexer σ ε :=
  if (m.flushed net id c).failed then (m.wroteOut net id c).record (.writeFailed id)
  else m.wroteOut net id c

/-- What holds when the bytes taken have been noted, and still when a failure is noted after
them, holds after a burst of writes. -/
theorem written_keeps {P : Multiplexer σ ε → Prop} {net : Host ε} {m : Multiplexer σ ε}
    {id : Handle} {c : Connection} (hwrote : P (m.wroteOut net id c))
    (hfailed : P (m.wroteOut net id c) → P ((m.wroteOut net id c).record (.writeFailed id))) :
    P (m.written net id c) := by
  unfold written
  split
  · exact hfailed hwrote
  · exact hwrote

/-- A connection without output is left alone. -/
theorem flush_of_isEmpty {net : Host ε} {m : Multiplexer σ ε} {id : Handle} {c : Connection}
    (h : c.outbound.isEmpty = true) : flush net m id c = (m, c, false) := if_pos h

/-- The output of any other one is written. -/
theorem flush_of_not_isEmpty {net : Host ε} {m : Multiplexer σ ε} {id : Handle} {c : Connection}
    (h : ¬c.outbound.isEmpty = true) :
    flush net m id c =
      (m.written net id c, { c with outbound := (m.flushed net id c).left },
        (m.flushed net id c).failed) := if_neg h

/-- The server when the poller watches a connection for what it needs. -/
def armed (net : Host ε) (m : Multiplexer σ ε) (id : Handle) (c : Connection) :
    Multiplexer σ ε :=
  { m with host := (net.arm m.host id c.hasOutput).2,
           board := m.board.put id { c with watchesWrites := c.hasOutput } }

/-- What the server does, one thing at a time. -/
inductive Action (net : Host ε) (handler : Handler σ) :
    Multiplexer σ ε → Multiplexer σ ε → Prop where
  /-- The system is asked for something. -/
  | asked {m : Multiplexer σ ε} {host : ε} (h : net.Asks m.host host) :
      Action net handler m { m with host := host }
  /-- The system is asked for what has arrived on a connection. -/
  | read {m : Multiplexer σ ε} (id : Handle) :
      Action net handler m { m with host := (net.read m.host id).2 }
  /-- The server listens. -/
  | listened {m : Multiplexer σ ε} (bound : Endpoint) :
      Action net handler m { m with poller := true, listener := some bound }
  /-- The server closes everything. -/
  | deactivated {m : Multiplexer σ ε} : Action net handler m m.deactivate
  /-- Another verbosity holds. -/
  | verbosity {m : Multiplexer σ ε} (verbosity : Verbosity) :
      Action net handler m { m with verbosity := verbosity }
  /-- A call is made from outside. -/
  | call {m : Multiplexer σ ε} (call : Outgoing String) : Action net handler m (m.call call)
  /-- A connection comes, and the handler is told. -/
  | admitted {m : Multiplexer σ ε} :
      Action net handler m
        (raise handler
          { m with nextHandle := m.nextHandle + 1,
                   board := m.board.put m.nextHandle Connection.fresh }
          (.connect m.nextHandle))
  /-- A connection comes that cannot be watched. -/
  | skipped {m : Multiplexer σ ε} :
      Action net handler m { m with nextHandle := m.nextHandle + 1 }
  /-- Bytes arrive on a connection that is not to be closed. -/
  | received {m : Multiplexer σ ε} {id : Handle} {c : Connection} (bytes : List UInt8)
      (hc : m.board.get? id = some c) (hread : c.closing = false) :
      Action net handler m
        ({ m with board := m.board.put id (c.receive bytes).1 }.record (.received id bytes))
  /-- The handler is told of a line of a connection that is not to be closed. -/
  | line {m : Multiplexer σ ε} {id : Handle} (text : String)
      (haccepts : m.board.accepts id = true) :
      Action net handler m (raise handler m (.line id text))
  /-- Output of a connection goes out. -/
  | wrote {m : Multiplexer σ ε} {id : Handle} {c : Connection} (hc : m.board.get? id = some c) :
      Action net handler m (m.written net id c)
  /-- The poller watches a connection for what it needs. -/
  | armed {m : Multiplexer σ ε} {id : Handle} {c : Connection} (hc : m.board.get? id = some c)
      (haccepted : (net.arm m.host id c.hasOutput).1 = true) :
      Action net handler m (m.armed net id c)
  /-- A connection waits for a change to be applied. -/
  | marked {m : Multiplexer σ ε} (id : Handle) :
      Action net handler m { m with board := m.board.mark id }
  /-- Those that wait are taken up. -/
  | taken {m : Multiplexer σ ε} :
      Action net handler m { m with board := { m.board with pending := [] } }
  /-- A connection is closed, and the handler is told. -/
  | closed {m : Multiplexer σ ε} {id : Handle} {c : Connection} {cause : Closing}
      (hc : m.board.get? id = some c) (hmay : MayClose net m id c cause) :
      Action net handler m (close handler m id cause)

/-- What holds at some point and survives every step holds after any number of them. -/
theorem keeps_of_steps {α : Type} {r : α → α → Prop} {P : α → Prop}
    (hstep : ∀ {a b}, r a b → P a → P b) {a b : α} (h : ReflTransGen r a b) (ha : P a) : P b := by
  induction h with
  | refl => exact ha
  | tail _ hlast ih => exact hstep hlast ih

/-! ## What an event does -/

/-- Calls change the table and are noted, and nothing else happens. -/
theorem foldl_call (calls : List (Outgoing String)) (m : Multiplexer σ ε) :
    calls.foldl call m =
      { m with board := calls.foldl Switchboard.carryOut m.board,
               journal := (calls.map Entry.called).reverse ++ m.journal } := by
  induction calls generalizing m with
  | nil => rfl
  | cons first calls ih =>
    rw [List.foldl_cons, ih, List.foldl_cons, List.map_cons, List.reverse_cons, List.append_assoc]
    rfl

/-- What survives every call holds after all that are made. -/
theorem calls_keep {P : Multiplexer σ ε → Prop}
    (hcall : ∀ {m : Multiplexer σ ε} (c : Outgoing String), P m → P (m.call c))
    (calls : List (Outgoing String)) {m : Multiplexer σ ε} (hm : P m) :
    P (calls.foldl call m) := by
  induction calls generalizing m with
  | nil => exact hm
  | cons first calls ih => exact ih (hcall first hm)

/-- The server when an event has been noted and the calls in answer to it are still to be
made. -/
def noted (handler : Handler σ) (m : Multiplexer σ ε) (event : Event) : Multiplexer σ ε :=
  { m with state := (handler.react m.state m.board.count event).1 }.record
    (.raised event m.board.count)

section Raise

variable {net : Host ε} {handler : Handler σ} {m m' : Multiplexer σ ε} {id : Handle}
  {c : Connection} {cause : Closing}

/-- What holds when an event has been noted and survives every call holds after the
event. -/
theorem raise_keeps {P : Multiplexer σ ε → Prop} {event : Event}
    (hnoted : P (noted handler m event))
    (hcall : ∀ {m : Multiplexer σ ε} (c : Outgoing String), P m → P (m.call c)) :
    P (raise handler m event) :=
  calls_keep hcall (handler.react m.state m.board.count event).2 hnoted

/-- An event neither opens nor shuts the server and gives no handle away. -/
theorem raise_unmoved {event : Event} :
    (raise handler m event).poller = m.poller ∧ (raise handler m event).listener = m.listener ∧
      (raise handler m event).nextHandle = m.nextHandle :=
  raise_keeps (P := fun after => after.poller = m.poller ∧ after.listener = m.listener ∧
    after.nextHandle = m.nextHandle) ⟨rfl, rfl, rfl⟩ fun _ hm => hm

/-- Closing a connection takes it out of the table before the handler is told. -/
theorem close_of_get? (hc : m.board.get? id = some c) :
    close handler m id cause =
      raise handler ({ m with board := m.board.remove id }.record (.closed id cause c.outbound))
        (.drop id) := by
  rw [close, hc]

end Raise

/-! ## Closing everything -/

/-- What survives that a connection leaves the table untold, and that an empty server shuts,
survives deactivation: the connections leave one after the other. -/
theorem deactivate_keeps {P : Multiplexer σ ε → Prop} {m : Multiplexer σ ε}
    (hleave : ∀ {m : Multiplexer σ ε} {id : Handle} {c : Connection},
      m.board.get? id = some c → P m →
      P ({ m with board := m.board.remove id }.record (.closed id .deactivated c.outbound)))
    (hshut : ∀ {m : Multiplexer σ ε}, (∀ id, m.board.get? id = none) → P m →
      P { m with poller := false, listener := none, board := Switchboard.empty })
    (hm : P m) : P m.deactivate := by
  have hall : ∀ (entries : List (Handle × Connection)) (m : Multiplexer σ ε),
      (entries.map Prod.fst).Nodup →
      (∀ id c, m.board.get? id = some c ↔ (id, c) ∈ entries) → P m →
      P { m with
        poller := false, listener := none, board := Switchboard.empty,
        journal := (entries.map fun entry =>
          Entry.closed entry.1 .deactivated entry.2.outbound).reverse ++ m.journal } := by
    intro entries
    induction entries with
    | nil =>
      intro m _ htable hm
      refine hshut (fun id => ?_) hm
      exact Option.eq_none_iff_forall_not_mem.mpr fun c hc =>
        List.not_mem_nil ((htable id c).mp hc)
    | cons first entries ih =>
      intro m hnodup htable hm
      obtain ⟨hfirst, hnodup⟩ := List.nodup_cons.mp hnodup
      have hleft := hleave ((htable first.1 first.2).mpr List.mem_cons_self) hm
      rw [List.map_cons, List.reverse_cons, List.append_assoc]
      refine ih _ hnodup (fun id c => ?_) hleft
      change (m.board.remove first.1).get? id = some c ↔ _
      rw [Switchboard.get?_remove]
      split
      · rename_i hid
        subst hid
        exact ⟨nofun, fun hmem => absurd (List.mem_map_of_mem hmem) hfirst⟩
      · rename_i hid
        rw [htable, List.mem_cons, or_iff_right]
        exact fun he => hid (congrArg Prod.fst he).symm
  unfold deactivate
  split
  · exact hm
  · refine hall m.board.connections.toList m ?_ (fun id c => ?_) hm
    · rw [Std.ExtTreeMap.map_fst_toList_eq_keys]
      exact Handle.nodup_keys _
    · exact Std.ExtTreeMap.mem_toList_iff_getElem?_eq_some.symm

/-! ## Applying changes -/

/-- What applying changes does, one thing at a time. No line is handed on and nothing is
read, and a connection that is not to be closed is closed only if the poller refuses to
watch it. -/
inductive Chore (net : Host ε) (handler : Handler σ) :
    Multiplexer σ ε → Multiplexer σ ε → Prop where
  /-- The system is asked for something. -/
  | asked {m : Multiplexer σ ε} {host : ε} (h : net.Asks m.host host) :
      Chore net handler m { m with host := host }
  /-- Output of a connection goes out. -/
  | wrote {m : Multiplexer σ ε} {id : Handle} {c : Connection} (hc : m.board.get? id = some c) :
      Chore net handler m (m.written net id c)
  /-- The poller watches a connection for what it needs. -/
  | armed {m : Multiplexer σ ε} {id : Handle} {c : Connection} (hc : m.board.get? id = some c)
      (haccepted : (net.arm m.host id c.hasOutput).1 = true) :
      Chore net handler m (m.armed net id c)
  /-- Those that wait are taken up. -/
  | taken {m : Multiplexer σ ε} :
      Chore net handler m { m with board := { m.board with pending := [] } }
  /-- A connection is closed that was to be closed. -/
  | released {m : Multiplexer σ ε} {id : Handle} {c : Connection} {cause : Closing}
      (hc : m.board.get? id = some c) (hclosing : c.closing = true)
      (hmay : MayClose net m id c cause) : Chore net handler m (close handler m id cause)
  /-- A connection is closed that the poller refuses to watch. -/
  | refused {m : Multiplexer σ ε} {id : Handle} {c : Connection}
      (hc : m.board.get? id = some c)
      (hrefused : ∃ host writes, (net.arm host id writes).1 = false) :
      Chore net handler m (close handler m id .unwatched)

theorem Chore.action {net : Host ε} {handler : Handler σ} {m m' : Multiplexer σ ε}
    (h : Chore net handler m m') : Action net handler m m' := by
  cases h with
  | asked h => exact Action.asked h
  | wrote hc => exact Action.wrote hc
  | armed hc haccepted => exact Action.armed hc haccepted
  | taken => exact Action.taken
  | released hc _ hmay => exact Action.closed hc hmay
  | refused hc hrefused => exact Action.closed hc hrefused

/-- Applying changes neither opens nor shuts the server and gives no handle away. -/
theorem Chore.unmoved {net : Host ε} {handler : Handler σ} {m m' : Multiplexer σ ε}
    (h : Chore net handler m m') :
    m'.poller = m.poller ∧ m'.listener = m.listener ∧ m'.nextHandle = m.nextHandle := by
  cases h with
  | asked => exact ⟨rfl, rfl, rfl⟩
  | wrote =>
    exact written_keeps (P := fun after => after.poller = m.poller ∧ after.listener = m.listener ∧
      after.nextHandle = m.nextHandle) ⟨rfl, rfl, rfl⟩ fun hm => hm
  | armed => exact ⟨rfl, rfl, rfl⟩
  | taken => exact ⟨rfl, rfl, rfl⟩
  | released hc =>
    rw [close_of_get? hc]
    exact raise_unmoved
  | refused hc =>
    rw [close_of_get? hc]
    exact raise_unmoved

/-- Entries are only added. -/
theorem Action.grows {net : Host ε} {handler : Handler σ} {m m' : Multiplexer σ ε}
    (h : Action net handler m m') : m.journal <:+ m'.journal := by
  have hraise : ∀ (after : Multiplexer σ ε) (event : Event), m.journal <:+ after.journal →
      m.journal <:+ (raise handler after event).journal := fun after event hgrown =>
    raise_keeps (P := fun after => m.journal <:+ after.journal)
      (hgrown.trans (List.suffix_cons _ _)) fun _ hm => hm.trans (List.suffix_cons _ _)
  cases h with
  | deactivated =>
    exact deactivate_keeps (P := fun after => m.journal <:+ after.journal)
      (fun _ hm => hm.trans (List.suffix_cons _ _)) (fun _ hm => hm) List.suffix_rfl
  | call => exact List.suffix_cons _ _
  | admitted => exact hraise _ _ List.suffix_rfl
  | received => exact List.suffix_cons _ _
  | line => exact hraise _ _ List.suffix_rfl
  | wrote =>
    exact written_keeps (P := fun after => m.journal <:+ after.journal) (List.suffix_cons _ _)
      fun hm => hm.trans (List.suffix_cons _ _)
  | closed hc =>
    rw [close_of_get? hc]
    exact hraise _ _ (List.suffix_cons _ _)
  | asked | read | listened | verbosity | skipped | armed | marked | taken => exact List.suffix_rfl

/-- The journal only grows. -/
theorem journal_grows {net : Host ε} {handler : Handler σ} {m m' : Multiplexer σ ε}
    (h : ReflTransGen (Action net handler) m m') : m.journal <:+ m'.journal :=
  keeps_of_steps (P := fun after => m.journal <:+ after.journal)
    (fun haction hm => hm.trans haction.grows) h List.suffix_rfl

theorem actions_of_chores {net : Host ε} {handler : Handler σ} {m m' : Multiplexer σ ε}
    (h : ReflTransGen (Chore net handler) m m') : ReflTransGen (Action net handler) m m' :=
  ReflTransGen.mono (fun _ _ => Chore.action) m m' h

/-- What is done for each of a list is done for all. -/
theorem foldl_steps {α β : Type} {r : β → β → Prop} {f : β → α → β}
    (hf : ∀ b a, ReflTransGen r b (f b a)) (l : List α) (b : β) :
    ReflTransGen r b (l.foldl f b) := by
  induction l generalizing b with
  | nil => exact ReflTransGen.refl
  | cons a l ih => exact (hf b a).trans (ih (f b a))

section Chores

variable (net : Host ε) (handler : Handler σ)

/-- A burst of writes leaves the connection in the table, with what is left of its
output. -/
theorem flush_chores {m : Multiplexer σ ε} {id : Handle} {c : Connection}
    (hc : m.board.get? id = some c) :
    ∃ m' c' failed, flush net m id c = (m', c', failed) ∧
      ReflTransGen (Chore net handler) m m' ∧ m'.board.get? id = some c' ∧
      c'.closing = c.closing ∧ (failed = true → m'.journal.head? = some (.writeFailed id)) := by
  by_cases hempty : c.outbound.isEmpty = true
  · exact ⟨m, c, false, flush_of_isEmpty hempty, ReflTransGen.refl, hc, rfl, fun h => by cases h⟩
  · refine ⟨_, _, _, flush_of_not_isEmpty hempty, ReflTransGen.single (Chore.wrote hc), ?_, rfl, ?_⟩
    · unfold written
      split <;> exact Switchboard.get?_put_self _ _ _
    · intro hfailed
      rw [written, if_pos hfailed]
      rfl

theorem watch_chores {m : Multiplexer σ ε} {id : Handle} {c : Connection}
    (hc : m.board.get? id = some c) :
    ReflTransGen (Chore net handler) m (watch net handler m id c) := by
  unfold watch
  split
  · exact ReflTransGen.refl
  · dsimp only
    split
    · rename_i haccepted
      exact ReflTransGen.single (Chore.armed hc haccepted)
    · rename_i hrefused
      have hfalse : (net.arm m.host id c.hasOutput).1 = false := Bool.eq_false_iff.mpr hrefused
      have hasked : Chore net handler m { m with host := (net.arm m.host id c.hasOutput).2 } :=
        Chore.asked (Host.Asks.refused hfalse)
      exact (ReflTransGen.single hasked).tail (Chore.refused hc ⟨m.host, c.hasOutput, hfalse⟩)

theorem settleOne_chores (m : Multiplexer σ ε) (id : Handle) :
    ReflTransGen (Chore net handler) m (settleOne net handler m id) := by
  unfold settleOne
  cases hc : m.board.get? id with
  | none => exact ReflTransGen.refl
  | some c =>
    dsimp only
    split
    · rename_i hclosing
      obtain ⟨m', c', failed, he, hflush, hc', hsame, hfailed⟩ := flush_chores net handler hc
      rw [he]
      dsimp only
      split
      · exact hflush.trans (watch_chores net handler hc')
      · rename_i hempty
        refine hflush.tail (Chore.released hc' (hsame.trans hclosing) ?_)
        cases failed with
        | true => exact hfailed rfl
        | false => exact ⟨hsame.trans hclosing, by simpa [Connection.hasOutput] using hempty⟩
    · exact watch_chores net handler hc

theorem settleWithin_chores (passes : Nat) (m : Multiplexer σ ε) :
    ReflTransGen (Chore net handler) m (settleWithin net handler passes m) := by
  induction passes generalizing m with
  | zero => exact ReflTransGen.refl
  | succ passes ih =>
    rw [settleWithin]
    split
    · exact ReflTransGen.refl
    · refine ReflTransGen.trans ?_ (ih (settlePass net handler m))
      exact (ReflTransGen.single Chore.taken).trans
        (foldl_steps (settleOne_chores net handler) m.board.pending _)

/-- Applying changes is made of chores. -/
theorem settle_chores (m : Multiplexer σ ε) :
    ReflTransGen (Chore net handler) m (settle net handler m) :=
  settleWithin_chores net handler (m.board.count + 2) m

theorem settle_actions (m : Multiplexer σ ε) :
    ReflTransGen (Action net handler) m (settle net handler m) :=
  actions_of_chores (settle_chores net handler m)

/-- What survives every chore holds when changes have been applied. -/
theorem settle_keeps {P : Multiplexer σ ε → Prop} {m : Multiplexer σ ε}
    (hchore : ∀ {m m' : Multiplexer σ ε}, Chore net handler m m' → P m → P m') (hm : P m) :
    P (settle net handler m) :=
  keeps_of_steps (P := P) hchore (settle_chores net handler m) hm

/-- Calls from outside are noted before anything else is. -/
theorem callAll_grows (m : Multiplexer σ ε) (calls : List (Outgoing String)) :
    (calls.map .called).reverse ++ m.journal <:+ (callAll net handler m calls).journal := by
  unfold callAll
  refine settle_keeps net handler
    (P := fun after => (calls.map .called).reverse ++ m.journal <:+ after.journal)
    (fun hchore hm => hm.trans hchore.action.grows) ?_
  rewrite [foldl_call]
  exact List.suffix_rfl

/-- What survives that a line is handed on, and every chore, holds when lines have been dealt
with. -/
theorem dispatch_keeps {P : Multiplexer σ ε → Prop} {m : Multiplexer σ ε} {id : Handle}
    (hline : ∀ {m : Multiplexer σ ε} (text : String), m.board.accepts id = true → P m →
      P (raise handler m (.line id text)))
    (hchore : ∀ {m m' : Multiplexer σ ε}, Chore net handler m m' → P m → P m')
    (lines : List String) (hm : P m) : P (dispatch net handler id lines m) := by
  induction lines generalizing m with
  | nil => exact hm
  | cons line lines ih =>
    rw [dispatch]
    split
    · rename_i haccepts
      exact ih (settle_keeps net handler hchore (hline line haccepts hm))
    · exact hm

/-- What survives a burst of writes, and then that the connection is closed because writing
failed, or is marked, holds after its output was written. -/
theorem writeAll_keeps {P : Multiplexer σ ε → Prop} {m : Multiplexer σ ε} (id : Handle)
    (hchore : ∀ {m m' : Multiplexer σ ε}, Chore net handler m m' → P m → P m')
    (hclose : ∀ {m : Multiplexer σ ε} {c : Connection}, m.board.get? id = some c →
      m.journal.head? = some (.writeFailed id) → P m → P (close handler m id .writeFailed))
    (hmark : ∀ {m : Multiplexer σ ε}, P m → P { m with board := m.board.mark id })
    (hm : P m) : P (writeAll net handler m id) := by
  unfold writeAll
  cases hc : m.board.get? id with
  | none => exact hm
  | some c =>
    obtain ⟨m', c', failed, he, hflush, hc', -, hfailed⟩ := flush_chores net handler hc
    have hwritten : P m' := keeps_of_steps (P := P) hchore hflush hm
    dsimp only
    rw [he]
    dsimp only
    split
    · rename_i hf
      exact hclose hc' (hfailed hf) hwritten
    · exact hmark hwritten

theorem writeAll_actions (m : Multiplexer σ ε) (id : Handle) :
    ReflTransGen (Action net handler) m (writeAll net handler m id) :=
  writeAll_keeps net handler (P := ReflTransGen (Action net handler) m) id
    (fun hchore h => h.tail hchore.action)
    (fun hc hfailed h => h.tail (Action.closed hc hfailed))
    (fun h => h.tail (Action.marked id)) ReflTransGen.refl

end Chores

end Multiplexer

end RelayChat
