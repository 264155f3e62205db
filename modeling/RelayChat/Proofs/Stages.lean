import RelayChat.Proofs.AlikeHosts

/-!
# The stages of a demand

What is asked of a server takes its course in stages. A stage may consist of many
elementary actions, but it carries through what it begins: all that has arrived on a
connection is read, cut into lines and dealt with, and output is written and the
connection marked in one go. What holds between stages can be broken within one. A demand
is met in stages (`meet_stages`) and therefore by actions, unless the system just changes.
So an invariant of a run has to survive the stages, or the actions, and such changes
(`run_keeps_of_stages`, `run_keeps`). A wait consists of those stages only that are
`Round`s (`wait_rounds`), so that nothing in it opens or shuts the server. The poller is
asked once in a wait and never otherwise, so that a demand is made of the actions of a
system whose poller tells nothing else (`meet_actions_telling`).
-/

namespace RelayChat

open Relation

/-- A system whose poller always tells the same. -/
def Host.telling {ε : Type} (net : Host ε) (answer : PollAnswer) : Host ε :=
  { net with poll := fun host => (answer, host) }

namespace Multiplexer

variable {σ ε : Type}

/-- What the server does in a wait, stage by stage. -/
inductive Round (net : Host ε) (handler : Handler σ) :
    Multiplexer σ ε → Multiplexer σ ε → Prop where
  /-- The system is asked for something. -/
  | asked {m : Multiplexer σ ε} {host : ε} (h : net.Asks m.host host) :
      Round net handler m { m with host := host }
  /-- A connection comes to a server that listens, and the handler is told. -/
  | admitted {m : Multiplexer σ ε} (hlistens : m.listener.isSome = true) :
      Round net handler m
        (raise handler
          { m with nextHandle := m.nextHandle + 1,
                   board := m.board.put m.nextHandle Connection.fresh }
          (.connect m.nextHandle))
  /-- A connection comes that cannot be watched. -/
  | skipped {m : Multiplexer σ ε} :
      Round net handler m { m with nextHandle := m.nextHandle + 1 }
  /-- All that has arrived on a connection is read, and the lines that it completes are dealt
  with. -/
  | read {m : Multiplexer σ ε} (id : Handle) : Round net handler m (readAll net handler m id)
  /-- A connection is closed, and the handler is told. -/
  | closed {m : Multiplexer σ ε} {id : Handle} {c : Connection} {cause : Closing}
      (hc : m.board.get? id = some c) (hmay : MayClose net m id c cause) :
      Round net handler m (close handler m id cause)
  /-- Output of a connection is written. -/
  | wrote {m : Multiplexer σ ε} (id : Handle) : Round net handler m (writeAll net handler m id)
  /-- Changes are applied. -/
  | settled {m : Multiplexer σ ε} : Round net handler m (settle net handler m)

/-- What the server does in the course of a demand, stage by stage. -/
inductive Stage (net : Host ε) (handler : Handler σ) :
    Multiplexer σ ε → Multiplexer σ ε → Prop where
  /-- What may be done in a wait is done. -/
  | served {m m' : Multiplexer σ ε} (h : Round net handler m m') : Stage net handler m m'
  /-- The server listens. -/
  | listened {m : Multiplexer σ ε} (bound : Endpoint) :
      Stage net handler m { m with poller := true, listener := some bound }
  /-- The server closes everything. -/
  | deactivated {m : Multiplexer σ ε} : Stage net handler m m.deactivate
  /-- Another verbosity holds. -/
  | verbosity {m : Multiplexer σ ε} (verbosity : Verbosity) :
      Stage net handler m { m with verbosity := verbosity }
  /-- A call is made from outside. -/
  | call {m : Multiplexer σ ε} (call : Outgoing String) : Stage net handler m (m.call call)

section Reading

variable (net : Host ε) (handler : Handler σ)

/-- What survives that bytes of a connection are taken in, and that it is closed because there
are no more, survives a series of answers. -/
theorem readEach_keeps {P : Multiplexer σ ε → Prop} (id : Handle)
    (htook : ∀ {m : Multiplexer σ ε} {c : Connection} (bytes : List UInt8),
      m.board.get? id = some c → c.closing = false → P m → P (takeIn net handler m id c bytes))
    (hclose : ∀ {m : Multiplexer σ ε} {c : Connection}, m.board.get? id = some c →
      c.closing = false → P m → P (close handler m id .readEnded))
    (answers : List ReadAnswer) {m : Multiplexer σ ε} (hm : P m) :
    P (readEach net handler id answers m) := by
  induction answers generalizing m with
  | nil => exact hm
  | cons answer answers ih =>
    rw [readEach]
    cases hc : m.board.get? id with
    | none => exact hm
    | some c =>
      dsimp only
      split
      · exact hm
      · rename_i hopen
        have hopen : c.closing = false := Bool.eq_false_iff.mpr hopen
        cases answer with
        | received piece => exact ih (htook piece.bytes hc hopen hm)
        | interrupted => exact ih hm
        | finished => exact hclose hc hopen hm
        | failed => exact hclose hc hopen hm

/-- If it also survives that a connection is read, it holds when all that has arrived on it was
read. -/
theorem readAll_keeps {P : Multiplexer σ ε → Prop} {m : Multiplexer σ ε} (id : Handle)
    (hread : m.board.accepts id = true → P m → P { m with host := (net.read m.host id).2 })
    (htook : ∀ {m : Multiplexer σ ε} {c : Connection} (bytes : List UInt8),
      m.board.get? id = some c → c.closing = false → P m → P (takeIn net handler m id c bytes))
    (hclose : ∀ {m : Multiplexer σ ε} {c : Connection}, m.board.get? id = some c →
      c.closing = false → P m → P (close handler m id .readEnded))
    (hm : P m) : P (readAll net handler m id) := by
  unfold readAll
  split
  · rename_i haccepts
    exact readEach_keeps net handler id htook hclose _ (hread haccepts hm)
  · exact hm

theorem takeIn_actions {m : Multiplexer σ ε} {id : Handle} {c : Connection} (bytes : List UInt8)
    (hc : m.board.get? id = some c) (hread : c.closing = false) :
    ReflTransGen (Action net handler) m (takeIn net handler m id c bytes) :=
  dispatch_keeps net handler (P := ReflTransGen (Action net handler) m)
    (fun text haccepts h => h.tail (Action.line text haccepts))
    (fun hchore h => h.tail hchore.action) _
    (ReflTransGen.single (Action.received bytes hc hread))

theorem readEach_actions (id : Handle) (answers : List ReadAnswer) (m : Multiplexer σ ε) :
    ReflTransGen (Action net handler) m (readEach net handler id answers m) :=
  readEach_keeps net handler (P := ReflTransGen (Action net handler) m) id
    (fun bytes hc hread h => h.trans (takeIn_actions net handler bytes hc hread))
    (fun hc hread h => h.tail (Action.closed hc hread)) answers ReflTransGen.refl

theorem readAll_actions (m : Multiplexer σ ε) (id : Handle) :
    ReflTransGen (Action net handler) m (readAll net handler m id) := by
  unfold readAll
  split
  · exact (ReflTransGen.single (Action.read id)).trans (readEach_actions net handler id _ _)
  · exact ReflTransGen.refl

end Reading

theorem Round.actions {net : Host ε} {handler : Handler σ} {m m' : Multiplexer σ ε}
    (h : Round net handler m m') : ReflTransGen (Action net handler) m m' := by
  cases h with
  | asked h => exact ReflTransGen.single (Action.asked h)
  | admitted => exact ReflTransGen.single Action.admitted
  | skipped => exact ReflTransGen.single Action.skipped
  | read id => exact readAll_actions net handler m id
  | closed hc hmay => exact ReflTransGen.single (Action.closed hc hmay)
  | wrote id => exact writeAll_actions net handler m id
  | settled => exact settle_actions net handler m

theorem actions_of_rounds {net : Host ε} {handler : Handler σ} {m m' : Multiplexer σ ε}
    (h : ReflTransGen (Round net handler) m m') : ReflTransGen (Action net handler) m m' :=
  reflTransGen_closed (fun _ _ => Round.actions) m m' h

/-- A stage is made of actions. -/
theorem Stage.actions {net : Host ε} {handler : Handler σ} {m m' : Multiplexer σ ε}
    (h : Stage net handler m m') : ReflTransGen (Action net handler) m m' := by
  cases h with
  | served h => exact h.actions
  | listened bound => exact ReflTransGen.single (Action.listened bound)
  | deactivated => exact ReflTransGen.single Action.deactivated
  | verbosity verbosity => exact ReflTransGen.single (Action.verbosity verbosity)
  | call call => exact ReflTransGen.single (Action.call call)

section Stages

variable (net : Host ε) (handler : Handler σ)

theorem close_rounds {m : Multiplexer σ ε} {id : Handle} {cause : Closing}
    (hmay : ∀ c, m.board.get? id = some c → MayClose net m id c cause) :
    ReflTransGen (Round net handler) m (close handler m id cause) := by
  cases hc : m.board.get? id with
  | none =>
    rw [close, hc]
  | some c => exact ReflTransGen.single (Round.closed hc (hmay c hc))

theorem acceptEach_rounds (answers : List AcceptAnswer) {m : Multiplexer σ ε}
    (hlistens : m.listener.isSome = true) :
    ReflTransGen (Round net handler) m (acceptEach net handler answers m) := by
  induction answers generalizing m with
  | nil => exact ReflTransGen.refl
  | cons answer answers ih =>
    cases answer with
    | arrived watched =>
      rw [acceptEach]
      split
      · have htaken : (takeConnection net handler m).listener = m.listener := by
          unfold takeConnection
          refine settle_keeps net handler (P := fun after => after.listener = m.listener) ?_ ?_
          · exact fun hchore hm => hchore.unmoved.2.1.trans hm
          · exact raise_unmoved.2.1
        have hrounds : ReflTransGen (Round net handler) m (takeConnection net handler m) :=
          (ReflTransGen.single (Round.admitted hlistens)).tail Round.settled
        exact hrounds.trans (ih (htaken ▸ hlistens))
      · exact (ReflTransGen.single Round.skipped).trans (ih hlistens)
    | interrupted => exact ih hlistens
    | failed => exact ReflTransGen.refl

theorem acceptArrivals_rounds (m : Multiplexer σ ε) :
    ReflTransGen (Round net handler) m (acceptArrivals net handler m) := by
  unfold acceptArrivals
  split
  · exact ReflTransGen.refl
  · rename_i hlistens
    rw [Option.isNone_iff_eq_none, ← ne_eq, Option.ne_none_iff_isSome] at hlistens
    exact (ReflTransGen.single (Round.asked Host.Asks.accepted)).trans
      (acceptEach_rounds net handler _ hlistens)

/-- When what has arrived on a connection has been read, it may be closed or written to. -/
theorem serve_rest {m : Multiplexer σ ε} {socket : Readiness} (hid : socket.id ≠ listenerHandle)
    (htold : socket.hangup = true → CanHangUp net socket.id) :
    ReflTransGen (Round net handler)
      (if socket.readable || socket.hangup then readAll net handler m socket.id else m)
      (serve net handler m socket) := by
  rw [serve, if_neg hid]
  dsimp only
  generalize (if socket.readable || socket.hangup then readAll net handler m socket.id
    else m) = after
  split
  · rename_i hhangup
    exact close_rounds net handler fun _ _ => htold hhangup
  · split
    · exact ReflTransGen.single (Round.wrote socket.id)
    · exact ReflTransGen.refl

theorem serve_rounds {m : Multiplexer σ ε} {socket : Readiness}
    (htold : socket.hangup = true → CanHangUp net socket.id) :
    ReflTransGen (Round net handler) m (serve net handler m socket) := by
  by_cases hid : socket.id = listenerHandle
  · rw [serve, if_pos hid]
    exact acceptArrivals_rounds net handler m
  · refine ReflTransGen.trans ?_ (serve_rest net handler hid htold)
    split
    · exact ReflTransGen.single (Round.read socket.id)
    · exact ReflTransGen.refl

theorem serveEach_rounds (sockets : List Readiness)
    (htold : ∀ socket ∈ sockets, socket.hangup = true → CanHangUp net socket.id)
    (m : Multiplexer σ ε) :
    ReflTransGen (Round net handler) m (sockets.foldl (serve net handler) m) := by
  induction sockets generalizing m with
  | nil => exact ReflTransGen.refl
  | cons socket sockets ih =>
    obtain ⟨hsocket, hrest⟩ := List.forall_mem_cons.mp htold
    exact (serve_rounds net handler hsocket).trans (ih hrest _)

theorem wait_rounds (m : Multiplexer σ ε) :
    ReflTransGen (Round net handler) m (wait net handler m).1 := by
  cases hpoller : m.poller with
  | false => rw [wait_of_not_poller hpoller]
  | true =>
    rw [wait_of_poller hpoller]
    have hpolled : Round net handler m { m with host := (net.poll m.host).2 } :=
      Round.asked Host.Asks.polled
    refine (ReflTransGen.single hpolled).trans ?_
    cases hanswer : (net.poll m.host).1 with
    | interrupted => exact ReflTransGen.refl
    | failed => exact ReflTransGen.refl
    | ready sockets =>
      refine (serveEach_rounds net handler sockets (fun socket hmem hhangup => ?_) _).tail
        Round.settled
      exact ⟨m.host, sockets, socket, hanswer, hmem, rfl, hhangup⟩

theorem meet_stages (m : Multiplexer σ ε) (demand : Demand ε)
    (hdemand : ∀ change, demand ≠ .meanwhile change) :
    ReflTransGen (Stage net handler) m (meet net handler m demand) := by
  cases demand with
  | activate =>
    have hactivated := activated net m
    rw [meet]
    generalize m.activate net = result at hactivated ⊢
    cases hactivated with
    | already => exact ReflTransGen.refl
    | unsettled => exact ReflTransGen.refl
    | @unbound wanted source host hpoller hbind =>
      have hasked : net.Asks m.host (net.bind m.host wanted).2 := Host.Asks.bound wanted
      rw [hbind] at hasked
      exact ReflTransGen.single (Stage.served (Round.asked hasked))
    | @listens wanted bound host hpoller hbind =>
      have hasked : net.Asks m.host (net.bind m.host wanted).2 := Host.Asks.bound wanted
      rw [hbind] at hasked
      exact (ReflTransGen.single (Stage.served (Round.asked hasked))).tail (Stage.listened bound)
  | deactivate => exact ReflTransGen.single Stage.deactivated
  | wait => exact ReflTransGen.mono (fun _ _ => Stage.served) _ _ (wait_rounds net handler m)
  | setVerbosity level =>
    obtain ⟨verbosity, hverbosity⟩ := setVerbosity_cases m level
    rw [meet, hverbosity]
    exact ReflTransGen.single (Stage.verbosity verbosity)
  | call calls =>
    refine ReflTransGen.tail ?_ (Stage.served Round.settled)
    exact foldl_steps (fun m call => ReflTransGen.single (Stage.call call)) calls m
  | meanwhile change => exact absurd rfl (hdemand change)

/-- What a demand does is a sequence of actions. -/
theorem meet_actions (m : Multiplexer σ ε) (demand : Demand ε)
    (hdemand : ∀ change, demand ≠ .meanwhile change) :
    ReflTransGen (Action net handler) m (meet net handler m demand) :=
  reflTransGen_closed (fun _ _ => Stage.actions) m _ (meet_stages net handler m demand hdemand)

/-- What survives every stage, and the changes of the system that nobody asked for, holds
throughout a run. -/
theorem run_keeps_of_stages {P : Multiplexer σ ε → Prop} {demands : List (Demand ε)}
    (hstage : ∀ {m m' : Multiplexer σ ε}, Stage net handler m m' → P m → P m')
    (hmeanwhile : ∀ {m : Multiplexer σ ε} (change : ε → ε), .meanwhile change ∈ demands → P m →
      P { m with host := change m.host })
    {m : Multiplexer σ ε} (hm : P m) : P (run net handler m demands) := by
  induction demands generalizing m with
  | nil => exact hm
  | cons demand demands ih =>
    refine ih (fun change hmem => hmeanwhile change (List.mem_cons_of_mem demand hmem)) ?_
    by_cases hdemand : ∃ change, demand = .meanwhile change
    · obtain ⟨change, rfl⟩ := hdemand
      exact hmeanwhile change List.mem_cons_self hm
    · exact keeps_of_steps (P := P) hstage
        (meet_stages net handler m demand fun change he => hdemand ⟨change, he⟩) hm

/-- So does what survives every action. -/
theorem run_keeps {P : Multiplexer σ ε → Prop} {demands : List (Demand ε)}
    (haction : ∀ {m m' : Multiplexer σ ε}, Action net handler m m' → P m → P m')
    (hmeanwhile : ∀ {m : Multiplexer σ ε} (change : ε → ε), .meanwhile change ∈ demands → P m →
      P { m with host := change m.host })
    {m : Multiplexer σ ε} (hm : P m) : P (run net handler m demands) :=
  run_keeps_of_stages net handler (P := P)
    (fun hstage hm => keeps_of_steps (P := P) haction hstage.actions hm) hmeanwhile hm

end Stages

/-! ## What the poller tells -/

section Telling

variable {net : Host ε} {handler : Handler σ}

theorem alike_telling (net : Host ε) (answer : PollAnswer) : net.Alike id (net.telling answer) :=
  ⟨fun _ => rfl, fun _ _ => rfl, fun _ _ _ => rfl, fun _ _ _ => rfl⟩

/-- A wait deals with what its one poll tells. -/
theorem wait_telling {m : Multiplexer σ ε} (hpoller : m.poller = true) :
    wait net handler m =
      wait (net.telling (net.poll m.host).1) handler { m with host := (net.poll m.host).2 } := by
  let after := { m with host := (net.poll m.host).2 }
  have hdealt : dealt (net.telling (net.poll m.host).1) handler after (net.poll m.host).1 = _ :=
    dealt_onHost (alike_telling net _) after _
  rw [wait_of_poller hpoller, wait_of_poller (m := after) hpoller]
  exact hdealt.symm

/-- What the poller tells in the course of a demand. -/
def Demand.told (net : Host ε) (m : Multiplexer σ ε) : Demand ε → PollAnswer
  | .wait => (net.poll m.host).1
  | _ => .interrupted

/-- What a demand does is done, when the poller has told, by a system whose poller tells what
it tells in the course of the demand, and nothing else. -/
theorem meet_actions_telling (m : Multiplexer σ ε) (demand : Demand ε) :
    ∃ host, ReflTransGen (Action (net.telling (demand.told net m)) handler)
      { m with host := host } (meet net handler m demand) := by
  cases demand with
  | activate =>
    exact ⟨m.host, meet_actions (net.telling .interrupted) handler m .activate nofun⟩
  | deactivate =>
    exact ⟨m.host, meet_actions (net.telling .interrupted) handler m .deactivate nofun⟩
  | wait =>
    by_cases hpoller : m.poller = true
    · rw [meet, wait_telling hpoller]
      exact ⟨_, meet_actions (net.telling (net.poll m.host).1) handler _ .wait nofun⟩
    · rw [meet, wait_of_not_poller (Bool.eq_false_iff.mpr hpoller)]
      exact ⟨m.host, ReflTransGen.refl⟩
  | setVerbosity level =>
    exact ⟨m.host, meet_actions (net.telling .interrupted) handler m (.setVerbosity level) nofun⟩
  | call calls =>
    have hcalled : callAll (net.telling .interrupted) handler m calls =
        callAll net handler m calls :=
      callAll_onHost (alike_telling net _) m calls
    refine ⟨m.host, ?_⟩
    rw [meet, ← hcalled]
    exact meet_actions (net.telling .interrupted) handler m (.call calls) nofun
  | meanwhile change => exact ⟨change m.host, ReflTransGen.refl⟩

end Telling

end Multiplexer

end RelayChat
