import Mathlib.Data.List.Induction
import RelayChat.Loopback
import RelayChat.Proofs.EventProtocol
import RelayChat.Proofs.PendingChanges
import RelayChat.Proofs.SoundStates
import RelayChat.RelayHandler

/-!
# Sessions are those of live connections

The multiplexer keeps a table of connections and the relay one of sessions, and the two hear
of each other through events only. Every connection that comes opens a session, and every
connection that is closed has its session closed with it, at whatever depth that happens:
while changes are applied, between two lines of somebody else, or while others come in. Only
deactivation takes connections out of the table untold. Their sessions stay for good, since
no event of their handles is ever raised again.

`Mirrors` says that the sessions are those of the connections in the table and of the
handles that were lost in this way. Whatever is done in a wait keeps it (`Mirrors.round`),
and a deactivation loses all handles of the table (`Mirrors.deactivate`).

The relay behind the server is as after a run of its own with the events that the journal
tells (`Relay.after_eq_run`), and these open no handle twice. So its state is sound, and
nicknames and channels refer to sessions, hence to connections.
-/

namespace RelayChat

open Relation Directory

namespace Switchboard

variable {board : Switchboard} {id k : Handle} {c c' : Connection}

theorem isSome_get?_put :
    ((board.put id c).get? k).isSome = true ↔ id = k ∨ (board.get? k).isSome = true := by
  rw [get?_put]
  split
  · rename_i hk
    exact iff_of_true rfl (Or.inl hk)
  · rename_i hk
    exact (or_iff_right hk).symm

/-- A connection may change. -/
theorem isSome_get?_put_of_get? (hc : board.get? id = some c) :
    ((board.put id c').get? k).isSome = (board.get? k).isSome := by
  rw [get?_put]
  split
  · rename_i hk
    rw [← hk, hc]
    rfl
  · rfl

theorem isSome_get?_remove :
    ((board.remove id).get? k).isSome = true ↔ id ≠ k ∧ (board.get? k).isSome = true := by
  rw [get?_remove]
  split
  · rename_i hk
    exact iff_of_false nofun fun h => h.1 hk
  · rename_i hk
    exact (and_iff_right hk).symm

end Switchboard

namespace Multiplexer

variable {ε : Type} {net : Host ε} {site : Site} {m m' : Multiplexer Directory ε}
  {lost : Handle → Prop} {id : Handle} {c : Connection}

/-! ## The two tables -/

/-- The sessions are those of the connections in the table and of the handles lost. -/
structure Mirrors (lost : Handle → Prop) (m : Multiplexer Directory ε) : Prop where
  /-- Whoever has a session is in the table, or was lost. -/
  sessions : ∀ id, (m.state.session? id).isSome = true ↔
    (m.board.get? id).isSome = true ∨ lost id
  /-- What was lost is not in the table. -/
  apart : ∀ id, lost id → ¬(m.board.get? id).isSome = true
  /-- Handles that are still to come have no session. -/
  given : ∀ id, (m.state.session? id).isSome = true → id < m.nextHandle

namespace Mirrors

theorem create (listen : ListenSettings) (host : ε) :
    Mirrors (fun _ => False) (Multiplexer.create listen Directory.empty host) where
  sessions id := by
    have hboard : Switchboard.empty.get? id = none := Switchboard.get?_empty
    have hstate : Directory.empty.session? id = none := session?_empty
    change (Directory.empty.session? id).isSome = true ↔
      (Switchboard.empty.get? id).isSome = true ∨ False
    rw [hboard, hstate, or_false]
    rfl
  apart _ := False.elim
  given id hs := by
    have hstate : Directory.empty.session? id = none := session?_empty
    cases hstate ▸ hs

/-- Other parts of the server may change. -/
theorem congr (h : Mirrors lost m) (hstate : m'.state = m.state)
    (hnext : m.nextHandle ≤ m'.nextHandle)
    (hboard : ∀ id, (m'.board.get? id).isSome = (m.board.get? id).isSome) : Mirrors lost m' where
  sessions id := by rw [hstate, hboard, h.sessions]
  apart id hlost := by
    rw [hboard]
    exact h.apart id hlost
  given id hs := Nat.lt_of_lt_of_le (h.given id (hstate ▸ hs)) hnext

theorem call (h : Mirrors lost m) (call : Outgoing String) : Mirrors lost (m.call call) := by
  refine h.congr rfl (Nat.le_refl _) fun id => ?_
  change ((m.board.carryOut call).get? id).isSome = _
  rw [Switchboard.get?_carryOut, Option.isSome_map]

/-- An event is raised that sets the sessions right. -/
theorem raise {event : Event}
    (hsessions : ∀ id,
      (event = .connect id ∨ event ≠ .drop id ∧ (m.state.session? id).isSome = true) ↔
        (m.board.get? id).isSome = true ∨ lost id)
    (hapart : ∀ id, lost id → ¬(m.board.get? id).isSome = true)
    (hgiven : ∀ id, (m.board.get? id).isSome = true ∨ lost id → id < m.nextHandle) :
    Mirrors lost (Multiplexer.raise (Relay.handler site) m event) := by
  refine raise_keeps ?_ fun c hm => hm.call c
  have hstep : ∀ id, ((Relay.step site m.state event).1.session? id).isSome = true ↔
      (m.board.get? id).isSome = true ∨ lost id :=
    fun id => (Relay.isSome_session?_step site m.state event id).trans (hsessions id)
  exact ⟨hstep, hapart, fun id hs => hgiven id ((hstep id).mp hs)⟩

/-- A connection comes under a handle that is still to come. -/
theorem letIn (h : Mirrors lost m) :
    Mirrors lost (Multiplexer.raise (Relay.handler site)
      { m with nextHandle := m.nextHandle + 1,
               board := m.board.put m.nextHandle Connection.fresh }
      (.connect m.nextHandle)) := by
  have hgiven : ∀ id, (m.board.get? id).isSome = true ∨ lost id → id < m.nextHandle :=
    fun id hid => h.given id ((h.sessions id).mpr hid)
  apply raise
  · intro id
    rw [Switchboard.isSome_get?_put, h.sessions, or_assoc]
    exact or_congr ⟨Event.connect.inj, congrArg Event.connect⟩ (and_iff_right nofun)
  · intro id hlost hid
    rcases Switchboard.isSome_get?_put.mp hid with rfl | hid
    · exact Nat.lt_irrefl _ (hgiven _ (Or.inr hlost))
    · exact h.apart id hlost hid
  · intro id hid
    rw [Switchboard.isSome_get?_put, or_assoc] at hid
    rcases hid with rfl | hid
    · exact Nat.lt_succ_self _
    · exact Nat.lt_succ_of_lt (hgiven id hid)

/-- A line is handed on. -/
theorem line (h : Mirrors lost m) (id : Handle) (text : String) :
    Mirrors lost (Multiplexer.raise (Relay.handler site) m (.line id text)) := by
  apply raise
  · intro k
    rw [← h.sessions, or_iff_right nofun, and_iff_right nofun]
  · exact h.apart
  · exact fun k hk => h.given k ((h.sessions k).mpr hk)

/-- A connection is closed, and its session with it. -/
theorem close (h : Mirrors lost m) (hc : m.board.get? id = some c) (cause : Closing) :
    Mirrors lost (Multiplexer.close (Relay.handler site) m id cause) := by
  have hpresent : (m.board.get? id).isSome = true := Option.isSome_of_eq_some hc
  rw [close_of_get? hc]
  apply raise
  · intro k
    change _ ∨ _ ∧ (m.state.session? k).isSome = true ↔
      ((m.board.remove id).get? k).isSome = true ∨ lost k
    rw [or_iff_right nofun, Switchboard.isSome_get?_remove, h.sessions]
    constructor
    · rintro ⟨hne, hk | hlost⟩
      · exact Or.inl ⟨fun he => hne (congrArg Event.drop he), hk⟩
      · exact Or.inr hlost
    · rintro (⟨hne, hk⟩ | hlost)
      · exact ⟨fun he => hne (Event.drop.inj he), Or.inl hk⟩
      · refine ⟨fun he => ?_, Or.inr hlost⟩
        cases he
        exact h.apart id hlost hpresent
  · intro k hlost hk
    exact h.apart k hlost (Switchboard.isSome_get?_remove.mp hk).2
  · intro k hk
    refine h.given k ((h.sessions k).mpr ?_)
    exact hk.imp_left fun hk => (Switchboard.isSome_get?_remove.mp hk).2

/-! ## What is done in a wait -/

theorem chore (hchore : Chore net (Relay.handler site) m m') (h : Mirrors lost m) :
    Mirrors lost m' := by
  cases hchore with
  | asked => exact h.congr rfl (Nat.le_refl _) fun _ => rfl
  | @wrote id c hc =>
    have hput : Mirrors lost (m.wroteOut net id c) :=
      h.congr rfl (Nat.le_refl _) fun _ => Switchboard.isSome_get?_put_of_get? hc
    exact written_keeps hput fun hwrote => hwrote.congr rfl (Nat.le_refl _) fun _ => rfl
  | armed hc => exact h.congr rfl (Nat.le_refl _) fun _ => Switchboard.isSome_get?_put_of_get? hc
  | taken => exact h.congr rfl (Nat.le_refl _) fun _ => rfl
  | released hc => exact h.close hc _
  | refused hc => exact h.close hc _

theorem settle (h : Mirrors lost m) :
    Mirrors lost (Multiplexer.settle net (Relay.handler site) m) :=
  settle_keeps net (Relay.handler site) (fun hchore hm => hm.chore hchore) h

theorem dispatch (lines : List String) (h : Mirrors lost m) :
    Mirrors lost (Multiplexer.dispatch net (Relay.handler site) id lines m) :=
  dispatch_keeps net (Relay.handler site) (fun text _ hm => hm.line id text)
    (fun hchore hm => hm.chore hchore) lines h

theorem writeAll (h : Mirrors lost m) :
    Mirrors lost (Multiplexer.writeAll net (Relay.handler site) m id) := by
  refine writeAll_keeps net (Relay.handler site) id (fun hchore hm => hm.chore hchore)
    (fun hc _ hm => hm.close hc .writeFailed) (fun hm => ?_) h
  exact hm.congr rfl (Nat.le_refl _) fun _ => by rw [Switchboard.get?_mark]

/-- Whatever is done in a wait, the sessions are those of the table. -/
theorem round (hround : Round net (Relay.handler site) m m') (h : Mirrors lost m) :
    Mirrors lost m' := by
  cases hround with
  | asked => exact h.congr rfl (Nat.le_refl _) fun _ => rfl
  | admitted => exact h.letIn
  | skipped => exact h.congr rfl (Nat.le_succ _) fun _ => rfl
  | read id =>
    refine readAll_keeps net (Relay.handler site) id (fun _ hm => ?_) (fun bytes hc _ hm => ?_)
      (fun hc _ hm => hm.close hc .readEnded) h
    · exact hm.congr rfl (Nat.le_refl _) fun _ => rfl
    · exact dispatch _
        (hm.congr rfl (Nat.le_refl _) fun _ => Switchboard.isSome_get?_put_of_get? hc)
  | closed hc => exact h.close hc _
  | wrote => exact h.writeAll
  | settled => exact h.settle

/-! ## Whole demands -/

/-- It does not matter how it is told what was lost. -/
theorem of_iff {lost' : Handle → Prop} (h : Mirrors lost m) (hlost : ∀ id, lost' id ↔ lost id) :
    Mirrors lost' m where
  sessions id := by rw [hlost, h.sessions]
  apart id hid := h.apart id ((hlost id).mp hid)
  given := h.given

/-- A deactivation loses what is in the table. -/
theorem deactivate (h : Mirrors lost m)
    (hpolls : ∀ id c, m.board.get? id = some c → m.poller = true) :
    Mirrors (fun id => lost id ∨ (m.board.get? id).isSome = true) m.deactivate := by
  unfold Multiplexer.deactivate
  split
  · rename_i hoff
    -- without a poller there is nothing to lose
    have hnone : ∀ id, ¬(m.board.get? id).isSome = true := by
      intro id hid
      obtain ⟨c, hc⟩ := Option.isSome_iff_exists.mp hid
      rw [hpolls id c hc] at hoff
      cases hoff
    exact h.of_iff fun id => or_iff_left (hnone id)
  · have hnone : ∀ id, ¬(Switchboard.empty.get? id).isSome = true := by
      intro id hid
      rw [Switchboard.get?_empty] at hid
      cases hid
    refine ⟨fun id => ?_, fun id _ => hnone id, h.given⟩
    rw [or_iff_right (hnone id), h.sessions, or_comm]

/-- Any other demand loses nothing. -/
theorem meet (h : Mirrors lost m) {demand : Demand ε} (hdemand : demand ≠ .deactivate) :
    Mirrors lost (Multiplexer.meet net (Relay.handler site) m demand) := by
  cases demand with
  | activate =>
    obtain ⟨host, hsystem | ⟨bound, hlistens⟩⟩ := activate_cases net m
    · rw [Multiplexer.meet, hsystem]
      exact h.congr rfl (Nat.le_refl _) fun _ => rfl
    · rw [Multiplexer.meet, hlistens]
      exact h.congr rfl (Nat.le_refl _) fun _ => rfl
  | deactivate => exact absurd rfl hdemand
  | wait =>
    exact keeps_of_steps (fun hround hm => hm.round hround)
      (wait_rounds net (Relay.handler site) m) h
  | setVerbosity level =>
    obtain ⟨verbosity, hverbosity⟩ := setVerbosity_cases m level
    rw [Multiplexer.meet, hverbosity]
    exact h.congr rfl (Nat.le_refl _) fun _ => rfl
  | call calls =>
    have hcalls : Mirrors lost (calls.foldl Multiplexer.call m) :=
      calls_keep (fun c hm => hm.call c) calls h
    exact hcalls.settle
  | meanwhile change => exact h.congr rfl (Nat.le_refl _) fun _ => rfl

end Mirrors

/-! ## Whole runs -/

section Runs

variable (net : Host ε) (site : Site) (listen : ListenSettings) (host : ε)

/-- The handle was in the table when the server was deactivated. -/
def Lost (demands : List (Demand ε)) (id : Handle) : Prop :=
  ∃ earlier later, demands = earlier ++ .deactivate :: later ∧
    ((run net (Relay.handler site) (create listen .empty host) earlier).board.get? id).isSome = true

variable {net site listen host} {demands : List (Demand ε)} {demand : Demand ε}

/-- What is lost after one more demand was lost before or is lost with it. -/
theorem lost_concat : Lost net site listen host (demands ++ [demand]) id ↔
    Lost net site listen host demands id ∨ demand = .deactivate ∧
      ((run net (Relay.handler site) (create listen .empty host) demands).board.get? id).isSome =
        true := by
  constructor
  · rintro ⟨earlier, later, he, hid⟩
    rcases last_or_before he with ⟨rfl, rfl, hlast⟩ | ⟨between, rfl, rfl⟩
    · exact Or.inr ⟨hlast, hid⟩
    · exact Or.inl ⟨earlier, between, rfl, hid⟩
  · rintro (⟨earlier, later, rfl, hid⟩ | ⟨rfl, hid⟩)
    · exact ⟨earlier, later ++ [demand], by rw [List.append_assoc, List.cons_append], hid⟩
    · exact ⟨demands, [], rfl, hid⟩

theorem not_lost (h : .deactivate ∉ demands) : ¬Lost net site listen host demands id := by
  rintro ⟨earlier, later, rfl, -⟩
  exact h (List.mem_append_right earlier List.mem_cons_self)

variable (net site listen host) (demands)

/-- After every run, the sessions are those of the connections in the table and of the
handles lost. -/
theorem run_mirrors : Mirrors (Lost net site listen host demands)
    (run net (Relay.handler site) (create listen .empty host) demands) := by
  induction demands using List.reverseRecOn with
  | nil =>
    refine (Mirrors.create listen host).of_iff fun id => iff_false_intro ?_
    exact not_lost List.not_mem_nil
  | append_singleton demands demand ih =>
    have hrun : run net (Relay.handler site) (create listen .empty host) (demands ++ [demand]) =
        meet net (Relay.handler site)
          (run net (Relay.handler site) (create listen .empty host) demands) demand :=
      List.foldl_append
    rw [hrun]
    by_cases hdemand : demand = .deactivate
    · subst hdemand
      have htidy := run_tidy net (Relay.handler site) listen Directory.empty host demands
      refine (ih.deactivate htidy.polls).of_iff fun id => ?_
      rw [lost_concat, and_iff_right rfl]
    · refine (ih.meet hdemand).of_iff fun id => ?_
      rw [lost_concat, or_iff_left fun h => hdemand h.1]

end Runs

end Multiplexer

/-! ## The relay behind the server -/

section Events

/-- The event of an entry. -/
def Entry.event : Entry → List Event
  | raised event _ => [event]
  | _ => []

/-- The events of a journal, in the order in which they were raised. -/
def eventsIn : List Entry → List Event := gathered Entry.event

variable {journal : List Entry}

/-- The events open the handles that come. -/
theorem opened_eventsIn : Event.opened (eventsIn journal) = comings journal := by
  induction journal with
  | nil => rfl
  | cons entry past ih =>
    have hcons : Event.opened (eventsIn (entry :: past)) =
        comings past ++ Event.opened entry.event := by
      rw [← ih]
      exact List.filterMap_append
    rw [hcons]
    cases entry with
    | raised event count => cases event <;> rfl
    | called => rfl
    | received => rfl
    | wrote => rfl
    | writeFailed => rfl
    | closed => rfl

/-- The relay has dealt with the events of the journal. -/
theorem Relay.after_eq_run (site : Site) (journal : List Entry) :
    (handler site).after .empty journal = run site .empty (eventsIn journal) := by
  induction journal with
  | nil => rfl
  | cons entry past ih =>
    cases entry with
    | raised event count =>
      have hevents : eventsIn (.raised event count :: past) = eventsIn past ++ [event] := rfl
      rw [hevents, run_concat, ← ih]
      rfl
    | called => exact ih.trans (congrArg _ (gathered_cons_of_nil rfl).symm)
    | received => exact ih.trans (congrArg _ (gathered_cons_of_nil rfl).symm)
    | wrote => exact ih.trans (congrArg _ (gathered_cons_of_nil rfl).symm)
    | writeFailed => exact ih.trans (congrArg _ (gathered_cons_of_nil rfl).symm)
    | closed => exact ih.trans (congrArg _ (gathered_cons_of_nil rfl).symm)

end Events

namespace Multiplexer

variable {ε : Type}

/-- The relay behind a server reaches only sound states. -/
theorem run_state_sound (net : Host ε) (site : Site) (listen : ListenSettings) (host : ε)
    (demands : List (Demand ε)) :
    (run net (Relay.handler site) (create listen .empty host) demands).state.Sound := by
  have hm := run_consistent net (Relay.handler site) listen .empty host demands
  have horderly := run_orderly net (Relay.handler site) listen .empty host demands
  rw [hm.state, Relay.after_eq_run]
  refine Relay.run_sound site ?_
  rw [FreshHandles, opened_eventsIn]
  exact horderly.increasing.imp Nat.ne_of_lt

/-- Sessions mirror connections. Whenever a demand has been met, whoever has a session is in
the table of connections, or was in it when the server was deactivated. So as long as it is
not, there are exactly as many sessions as connections, one for each, and whoever holds a
nickname, or is on a channel or an operator of it, is connected. -/
theorem sessions_mirror_connections (net : Host ε) (site : Site) (listen : ListenSettings)
    (host : ε) (demands : List (Demand ε)) :
    let m := run net (Relay.handler site) (create listen .empty host) demands
    (∀ id, (m.state.session? id).isSome = true ↔
      (m.board.get? id).isSome = true ∨ Lost net site listen host demands id) ∧
    (.deactivate ∉ demands →
      (∀ id, (m.state.session? id).isSome = true ↔ (m.board.get? id).isSome = true) ∧
      m.state.sessions.size = m.board.count ∧
      (∀ n id, m.state.holder? n = some id → (m.board.get? id).isSome = true) ∧
      ∀ name c, m.state.channel? name = some c → ∀ n, n ∈ c.members ∨ n ∈ c.operators →
        ∃ id, m.state.holder? n = some id ∧ (m.board.get? id).isSome = true) := by
  intro m
  have hmirrors : Mirrors (Lost net site listen host demands) m :=
    run_mirrors net site listen host demands
  have hsound : m.state.Sound := run_state_sound net site listen host demands
  refine ⟨hmirrors.sessions, fun hnever => ?_⟩
  have hsessions : ∀ id, (m.state.session? id).isSome = true ↔ (m.board.get? id).isSome = true :=
    fun id => (hmirrors.sessions id).trans (or_iff_left (not_lost hnever))
  have hheld : ∀ n id, m.state.holder? n = some id → (m.board.get? id).isSome = true := by
    intro n id hholder
    obtain ⟨s, hs, -⟩ := nickname?_eq_some_iff.mp ((hsound.agree.holder_iff n id).mp hholder)
    exact (hsessions id).mp (Option.isSome_of_eq_some hs)
  refine ⟨hsessions, ?_, hheld, fun name c hc n hn => ?_⟩
  · refine Handle.size_eq_of_mem_iff fun id => ?_
    rw [← Std.ExtTreeMap.isSome_getElem?_iff_mem, ← Std.ExtTreeMap.isSome_getElem?_iff_mem]
    exact hsessions id
  · have hchannel := hsound.channels name c hc
    obtain ⟨id, hid, -⟩ := hchannel.users n (hn.elim id (hchannel.operators_sub n))
    have hholder := (hsound.agree.holder_iff n id).mpr hid
    exact ⟨id, hholder, hheld n id hholder⟩

/-- Two clients connect. One logs in and joins a channel, and the other one goes. -/
def welcome : List (Demand Loopback) :=
  [.activate, .meanwhile fun s => (s.connect 1).connect 2, .wait,
    .meanwhile fun s =>
      (s.write 1 (LossyUtf8.encode "PASS secret\r\nNICK ann\r\nUSER ann host\r\nJOIN #lean\r\n")
        false).write 2 [] true,
    .wait]

/-- The server is deactivated while the first client is there, and another one comes to it
when it is active again. -/
def restart : List (Demand Loopback) :=
  welcome ++ [.deactivate, .activate, .meanwhile (·.connect 3), .wait]

/-- Before the restart there is one connection, and the nickname is held by it. After the
restart the nickname is held by a handle that was lost. -/
theorem sessions_mirror_connections_restart :
    let server := create ⟨6667, ""⟩ .empty (Loopback.idle true false)
    let before := run Loopback.host (Relay.handler .sample) server welcome
    let after := run Loopback.host (Relay.handler .sample) server restart
    before.state.sessions.size = 1 ∧ before.board.count = 1 ∧
      before.state.holder? "ann" = some 1 ∧ (before.board.get? 1).isSome = true ∧
      (before.state.session? 2).isSome = false ∧
      after.state.holder? "ann" = some 1 ∧ (after.board.get? 1).isSome = false ∧
      Lost Loopback.host .sample ⟨6667, ""⟩ (Loopback.idle true false) restart 1 ∧
      (after.state.session? 3).isSome = true ∧ (after.board.get? 3).isSome = true := by
  intro server before after
  have hnever : .deactivate ∉ welcome := by simp [welcome]
  have hholder : before.state.holder? "ann" = some 1 := by decide +kernel
  have hcount : before.board.count = 1 := by decide +kernel
  have hgone : (before.board.get? 2).isSome = false := by decide +kernel
  have hstale : after.state.holder? "ann" = some 1 := by decide +kernel
  have hsession : (after.state.session? 1).isSome = true := by decide +kernel
  have houtside : (after.board.get? 1).isSome = false := by decide +kernel
  have hnew : (after.board.get? 3).isSome = true := by decide +kernel
  obtain ⟨-, hlive⟩ := sessions_mirror_connections Loopback.host .sample ⟨6667, ""⟩
    (Loopback.idle true false) welcome
  obtain ⟨hsessions, hsize, hheld, -⟩ := hlive hnever
  obtain ⟨hmirrors, -⟩ := sessions_mirror_connections Loopback.host .sample ⟨6667, ""⟩
    (Loopback.idle true false) restart
  have hnone : (before.state.session? 2).isSome = false := by
    rw [Bool.eq_iff_iff, hsessions, hgone]
  have hlost := ((hmirrors 1).mp hsession).resolve_left (Bool.not_eq_true _ ▸ houtside)
  exact ⟨hsize.trans hcount, hcount, hholder, hheld "ann" 1 hholder, hnone, hstale, houtside, hlost,
    (hmirrors 3).mpr (Or.inl hnew), hnew⟩

end Multiplexer

end RelayChat
