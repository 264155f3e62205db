import RelayChat.Loopback
import RelayChat.Proofs.HostRecords
import RelayChat.Proofs.PendingChanges

/-!
# What the poller watches

A connection notes whether the poller watches for room to write to it. That note is what
the poller was last made to do for it (`Watched`): it is changed only when the poller has
accepted, a connection that comes is not watched, and nobody was watched before it came.
With connections at ease whenever a demand has been met, no wakeup is lost
(`no_lost_wakeup`).
-/

namespace RelayChat

/-- No call changes what is watched. -/
theorem Outgoing.watchesWrites_actOn (call : Outgoing String) (id : Handle) (c : Connection) :
    (call.actOn id c).watchesWrites = c.watchesWrites := by
  have hoffer (text : String) : (c.offer text).watchesWrites = c.watchesWrites := by
    unfold Connection.offer
    split <;> rfl
  cases call with
  | send who text => by_cases hwho : who = id <;> simp [actOn, hwho, hoffer]
  | broadcast text => exact hoffer text
  | disconnect who => by_cases hwho : who = id <;> simp [actOn, hwho]

namespace Multiplexer

variable {σ ε : Type} {net : Host ε} {handler : Handler σ} {start : σ}
  {m m' : Multiplexer σ (ε × List Dealing)} {id k : Handle} {c c' : Connection}

/-- Connections note what the poller was last made to watch. -/
structure Watched (m : Multiplexer σ (ε × List Dealing)) : Prop where
  /-- So do those in the table. -/
  noted : ∀ id c, m.board.get? id = some c → c.watchesWrites = lastArmed id m.host.2
  /-- Nothing is watched for handles that are still to come. -/
  untouched : ∀ id, m.nextHandle ≤ id → lastArmed id m.host.2 = false

namespace Watched

theorem create (listen : ListenSettings) (start : σ) (host : ε) :
    Watched (Multiplexer.create listen start (host, [])) where
  noted id c hc := by
    cases Switchboard.get?_empty.symm.trans hc
  untouched _ _ := rfl

/-- Other parts of the server may change, and connections but for what they note. -/
theorem congr (h : Watched m) (hnext : m.nextHandle ≤ m'.nextHandle)
    (hlog : ∀ id, lastArmed id m'.host.2 = lastArmed id m.host.2)
    (hboard : ∀ id c', m'.board.get? id = some c' →
      ∃ c, m.board.get? id = some c ∧ c'.watchesWrites = c.watchesWrites) : Watched m' where
  noted id c' hc' := by
    obtain ⟨c, hc, hsame⟩ := hboard id c' hc'
    rw [hsame, hlog, h.noted id c hc]
  untouched id hid := (hlog id).trans (h.untouched id (Nat.le_trans hnext hid))

/-- A connection of the table is put back changed. -/
theorem put (h : Watched m) (hc : m.board.get? k = some c)
    (hsame : c'.watchesWrites = c.watchesWrites) :
    Watched { m with board := m.board.put k c' } := by
  refine h.congr (Nat.le_refl _) (fun _ => rfl) fun id c'' hc'' => ?_
  change (m.board.put k c').get? id = some c'' at hc''
  rw [Switchboard.get?_put] at hc''
  split at hc''
  · rename_i hk
    cases hc''
    exact ⟨c, hk ▸ hc, hsame⟩
  · exact ⟨c'', hc'', rfl⟩

theorem call (h : Watched m) (call : Outgoing String) : Watched (m.call call) := by
  refine h.congr (Nat.le_refl _) (fun _ => rfl) fun id c' hc' => ?_
  change (m.board.carryOut call).get? id = some c' at hc'
  rw [Switchboard.get?_carryOut] at hc'
  obtain ⟨c, hc, rfl⟩ := Option.map_eq_some_iff.mp hc'
  exact ⟨c, hc, call.watchesWrites_actOn id c⟩

theorem raise (h : Watched m) (event : Event) : Watched (Multiplexer.raise handler m event) :=
  raise_keeps ⟨h.noted, h.untouched⟩ fun call hm => hm.call call

/-- A connection leaves the table. -/
theorem remove (h : Watched m) (entry : Entry) :
    Watched ({ m with board := m.board.remove k }.record entry) := by
  refine h.congr (Nat.le_refl _) (fun _ => rfl) fun id c hc => ⟨c, ?_, rfl⟩
  change (m.board.remove k).get? id = some c at hc
  rw [Switchboard.get?_remove] at hc
  split at hc
  · cases hc
  · exact hc

theorem close (h : Watched m) (hc : m.board.get? k = some c) (cause : Closing) :
    Watched (Multiplexer.close handler m k cause) := by
  rw [close_of_get? hc]
  exact (h.remove _).raise _

/-- A connection comes that is not watched. -/
theorem letIn (h : Watched m) :
    Watched { m with nextHandle := m.nextHandle + 1,
                     board := m.board.put m.nextHandle Connection.fresh } where
  noted id c hc := by
    change (m.board.put m.nextHandle Connection.fresh).get? id = some c at hc
    rw [Switchboard.get?_put] at hc
    split at hc
    · rename_i hid
      cases hc
      exact (h.untouched id (Nat.le_of_eq hid)).symm
    · exact h.noted id c hc
  untouched id hid := h.untouched id (Nat.le_of_succ_le hid)

/-- The poller accepts to watch a connection, or to do so no longer. -/
theorem armed (h : Watched m) (hm : Consistent handler start m) (hc : m.board.get? k = some c)
    (haccepted : (net.recorded.arm m.host k c.hasOutput).1 = true) :
    Watched (m.armed net.recorded k c) := by
  have hlog (id : Handle) : lastArmed id (m.armed net.recorded k c).host.2 =
      if k = id then c.hasOutput else lastArmed id m.host.2 := by
    change lastArmed id (.armed k c.hasOutput (net.recorded.arm m.host k c.hasOutput).1 :: _) = _
    rw [haccepted, lastArmed]
  refine ⟨fun id c' hc' => ?_, fun id hid => ?_⟩
  · rw [hlog]
    change (m.board.put k { c with watchesWrites := c.hasOutput }).get? id = some c' at hc'
    rw [Switchboard.get?_put] at hc'
    split at hc'
    · rename_i hk
      cases hc'
      rw [if_pos hk]
    · rename_i hk
      rw [if_neg hk, h.noted id c' hc']
  · have hk : k < id := Nat.lt_of_lt_of_le (hm.get?_lt hc) hid
    rw [hlog, if_neg (Nat.ne_of_lt hk)]
    exact h.untouched id hid

end Watched

/-- What the poller refuses makes no difference, and nothing else does that is asked for. -/
theorem lastArmed_asks {state state' : ε × List Dealing} (h : net.recorded.Asks state state')
    (id : Handle) : lastArmed id state'.2 = lastArmed id state.2 := by
  cases h with
  | bound | polled | accepted => rfl
  | refused hrefused =>
    change lastArmed id (.armed _ _ (net.recorded.arm state _ _).1 :: _) = _
    rw [hrefused, lastArmed]
    exact nofun

/-- Every action keeps the notes right. -/
theorem Action.watched (h : Action net.recorded handler m m') (hm : Consistent handler start m)
    (hwatched : Watched m) : Watched m' := by
  have hcongr {m' : Multiplexer σ (ε × List Dealing)} (hnext : m.nextHandle ≤ m'.nextHandle)
      (hlog : ∀ id, lastArmed id m'.host.2 = lastArmed id m.host.2)
      (hboard : ∀ id, m'.board.get? id = m.board.get? id) : Watched m' :=
    hwatched.congr hnext hlog fun id c hc => ⟨c, (hboard id).symm.trans hc, rfl⟩
  cases h with
  | asked h => exact hcongr (Nat.le_refl _) (lastArmed_asks h) fun _ => rfl
  | read => exact hcongr (Nat.le_refl _) (fun _ => rfl) fun _ => rfl
  | listened => exact hcongr (Nat.le_refl _) (fun _ => rfl) fun _ => rfl
  | deactivated =>
    refine deactivate_keeps (fun _ hm => hm.remove _) (fun _ hm => ?_) hwatched
    refine hm.congr (Nat.le_refl _) (fun _ => rfl) fun id c hc => ?_
    cases Switchboard.get?_empty.symm.trans hc
  | verbosity => exact hcongr (Nat.le_refl _) (fun _ => rfl) fun _ => rfl
  | call call => exact hwatched.call call
  | admitted => exact hwatched.letIn.raise _
  | skipped => exact hcongr (Nat.le_succ _) (fun _ => rfl) fun _ => rfl
  | received bytes hc =>
    have hput : Watched { m with board := m.board.put _ (Connection.receive _ bytes).1 } :=
      hwatched.put hc rfl
    exact ⟨hput.noted, hput.untouched⟩
  | line text => exact hwatched.raise _
  | @wrote k c hc =>
    let left := (m.flushed net.recorded k c).left
    have hput : Watched { m with board := m.board.put k { c with outbound := left } } :=
      hwatched.put hc rfl
    exact written_keeps ⟨hput.noted, hput.untouched⟩ fun hwrote => ⟨hwrote.noted, hwrote.untouched⟩
  | armed hc haccepted => exact hwatched.armed hm hc haccepted
  | marked => exact hcongr (Nat.le_refl _) (fun _ => rfl) fun _ => Switchboard.get?_mark
  | taken => exact hcongr (Nat.le_refl _) (fun _ => rfl) fun _ => rfl
  | closed hc => exact hwatched.close hc _

theorem recordedRun_watched (net : Host ε) (handler : Handler σ) (listen : ListenSettings)
    (start : σ) (host : ε) (demands : List (Demand ε)) :
    Watched (recordedRun net handler listen start host demands) := by
  refine (recordedRun_keeps net handler listen start host demands
    (P := fun m => Consistent handler start m ∧ Watched m) ?_ ?_ ?_).2
  · rintro m m' haction ⟨hm, hwatched⟩
    exact ⟨haction.consistent hm, haction.watched hm hwatched⟩
  · rintro m state ⟨hm, hwatched⟩
    exact ⟨hm.congr rfl rfl (Nat.le_refl _) fun _ => rfl, hwatched.noted, hwatched.untouched⟩
  · exact ⟨Consistent.create listen start (host, []), Watched.create listen start host⟩

/-- No wakeup is lost. Whenever a demand has been met, nobody waits for a change to be
applied, the poller was last made to watch exactly those connections for room to write that
have output, and every connection that is to be closed has output that must go out first.
This holds also when the poller refuses to watch connections, since these are closed. -/
theorem no_lost_wakeup (net : Host ε) (handler : Handler σ) (listen : ListenSettings)
    (start : σ) (host : ε) (demands : List (Demand ε)) :
    let m := run net handler (create listen start host) demands
    let log := dealings net handler listen start host demands
    (recordedRun net handler listen start host demands).onHost Prod.fst = m ∧
    m.board.pending = [] ∧ ∀ id c, m.board.get? id = some c →
      c.watchesWrites = lastArmed id log ∧ (c.watchesWrites = true ↔ c.outbound ≠ []) ∧
        (c.closing = true → c.outbound ≠ []) := by
  intro m log
  have hrecorded := recordedRun_onHost net handler listen start host demands
  have hboard : (recordedRun net handler listen start host demands).board = m.board :=
    congrArg board hrecorded
  obtain ⟨hnoted, -⟩ := recordedRun_watched net handler listen start host demands
  obtain ⟨hpending, heases⟩ := run_atEase net handler listen start host demands
  rw [hboard] at hnoted
  refine ⟨hrecorded, hpending, fun id c hc => ?_⟩
  have hease : c.AtEase := heases id c hc
  refine ⟨hnoted id c hc, ?_, fun hclosing => ?_⟩
  · rw [hease.watched, Connection.hasOutput_iff]
  · exact Connection.hasOutput_iff.mp (hease.kept hclosing)

/-- Something is sent to a client from outside. -/
def greeted : List (Demand Loopback) :=
  [.activate, .meanwhile (·.connect 1), .wait, .call [.send 1 "hello"]]

/-- The poller is made to watch for room to write as long as the output waits, and to do so no
longer when it has gone out. -/
theorem no_lost_wakeup_greeted :
    let server := create ⟨6667, ""⟩ () (Loopback.idle true false)
    let before := run Loopback.host Handler.silent server greeted
    let after := run Loopback.host Handler.silent server (greeted ++ [.wait])
    (∃ c, before.board.get? 1 = some c ∧ c.outbound = LossyUtf8.encode "hello" ∧
      c.watchesWrites = true) ∧
    ∃ c, after.board.get? 1 = some c ∧ c.outbound = [] ∧ c.watchesWrites = false := by
  intro server before after
  have hbefore : (before.board.get? 1).map (·.outbound) = some (LossyUtf8.encode "hello") := by
    decide +kernel
  have hafter : (after.board.get? 1).map (·.outbound) = some [] := by decide +kernel
  obtain ⟨c, hc, hout⟩ := Option.map_eq_some_iff.mp hbefore
  obtain ⟨c', hc', hout'⟩ := Option.map_eq_some_iff.mp hafter
  obtain ⟨-, -, hwatched⟩ := no_lost_wakeup Loopback.host Handler.silent ⟨6667, ""⟩ ()
    (Loopback.idle true false) greeted
  obtain ⟨-, -, hwatched'⟩ := no_lost_wakeup Loopback.host Handler.silent ⟨6667, ""⟩ ()
    (Loopback.idle true false) (greeted ++ [.wait])
  refine ⟨⟨c, hc, hout, (hwatched 1 c hc).2.1.mpr ?_⟩, c', hc', hout', ?_⟩
  · rw [hout]
    decide +kernel
  · rw [← Bool.not_eq_true, (hwatched' 1 c' hc').2.1, hout']
    exact fun h => h rfl

end Multiplexer

end RelayChat
