import RelayChat.Proofs.EventProtocol
import RelayChat.Proofs.PendingChanges

/-!
# How applying changes comes to an end

Changes are applied in passes, and a pass may let connections wait anew: whoever is told that a
connection is gone may send to others and ask for others to be closed. `Settles` is this loop
as it stands, with no bound on its passes. It ends for every server, handler and system, and
`settle` gives what it ends with (`settling_ends`): a pass after which somebody waits has closed
a connection, and there are only so many of them. Each is told to be gone at most once, because
it leaves the table just before (`Parted`).
-/

namespace RelayChat

/-- The connection that an entry tells to be gone. -/
def Entry.dropped : Entry → List Handle
  | .raised (.drop id) _ => [id]
  | _ => []

/-- The connections that are told to be gone, in order. -/
def drops : List Entry → List Handle := gathered Entry.dropped

namespace Multiplexer

open Relation

variable {σ ε : Type} {net : Host ε} {handler : Handler σ} {m m' m'' : Multiplexer σ ε}
  {id : Handle} {c : Connection} {gone : List Handle} {n n' : Nat}

/-! ## Passes -/

/-- Changes are applied until nobody waits. So many passes are begun, of which the last one
finds nobody. -/
inductive Settles (net : Host ε) (handler : Handler σ) :
    Nat → Multiplexer σ ε → Multiplexer σ ε → Prop where
  /-- Nobody waits. -/
  | ends {m : Multiplexer σ ε} (hnobody : m.board.pending = []) : Settles net handler 1 m m
  /-- Somebody waits: there is a pass, and then those who wait by now are looked for. -/
  | passes {m m' : Multiplexer σ ε} {n : Nat} (hsomebody : m.board.pending ≠ [])
      (hrest : Settles net handler n (settlePass net handler m) m') :
      Settles net handler (n + 1) m m'

/-- The passes lead to one end. -/
theorem Settles.unique (h : Settles net handler n m m') (h' : Settles net handler n' m m'') :
    n = n' ∧ m' = m'' := by
  induction h generalizing n' with
  | ends hnobody =>
    cases h' with
    | ends => exact ⟨rfl, rfl⟩
    | passes hsomebody => exact absurd hnobody hsomebody
  | passes hsomebody hrest ih =>
    cases h' with
    | ends hnobody => exact absurd hnobody hsomebody
    | passes _ hrest' =>
      obtain ⟨hn, hm⟩ := ih hrest'
      exact ⟨congrArg (· + 1) hn, hm⟩

/-- When they have ended nobody waits. -/
theorem Settles.pending (h : Settles net handler n m m') : m'.board.pending = [] := by
  induction h with
  | ends hnobody => exact hnobody
  | passes _ _ ih => exact ih

/-- There are no more passes than connections and two: each but the last two closes one. -/
theorem settles_settleWithin {passes : Nat} (h : m.board.count < passes) :
    ∃ n ≤ m.board.count + 2, Settles net handler n m (settleWithin net handler passes m) := by
  induction passes generalizing m with
  | zero => omega
  | succ passes ih =>
    rw [settleWithin]
    split
    · rename_i hnobody
      exact ⟨1, by omega, .ends (List.isEmpty_iff.mp hnobody)⟩
    · rename_i hsomebody
      rw [List.isEmpty_iff] at hsomebody
      by_cases hwaits : (settlePass net handler m).board.pending = []
      · rw [settleWithin_of_pending passes hwaits]
        exact ⟨2, by omega, .passes hsomebody (.ends hwaits)⟩
      · have hless : (settlePass net handler m).board.count < m.board.count :=
          settlePass_count_lt hwaits
        have hfew : (settlePass net handler m).board.count < passes := by omega
        obtain ⟨n, hn, hrest⟩ := ih hfew
        exact ⟨n + 1, by omega, .passes hsomebody hrest⟩

/-! ## Who is told to be gone -/

/-- From one state of the server to a later one the handler is told that these connections are
gone, and they are those that leave the table. -/
structure Parted (gone : List Handle) (m m' : Multiplexer σ ε) : Prop where
  /-- This is what the handler is told. -/
  told : ∃ done, m'.journal = done ++ m.journal ∧ drops done = gone
  /-- It is told so once of each. -/
  nodup : gone.Nodup
  /-- They were in the table. -/
  present : ∀ id ∈ gone, (m.board.get? id).isSome = true
  /-- All others stay. -/
  stays : ∀ id, (m'.board.get? id).isSome = true ↔ (m.board.get? id).isSome = true ∧ id ∉ gone

namespace Parted

theorem refl (m : Multiplexer σ ε) : Parted [] m m where
  told := ⟨[], rfl, rfl⟩
  nodup := List.nodup_nil
  present _ hid := absurd hid List.not_mem_nil
  stays _ := (and_iff_left List.not_mem_nil).symm

theorem trans {gone' : List Handle} (h : Parted gone m m') (h' : Parted gone' m' m'') :
    Parted (gone ++ gone') m m'' where
  told := by
    obtain ⟨done, hjournal, hdrops⟩ := h.told
    obtain ⟨done', hjournal', hdrops'⟩ := h'.told
    refine ⟨done' ++ done, by rw [hjournal', hjournal, List.append_assoc], ?_⟩
    rw [drops, gathered_append, ← drops, hdrops, hdrops']
  nodup := by
    refine List.nodup_append.mpr ⟨h.nodup, h'.nodup, fun id hid k hk he => ?_⟩
    exact ((h.stays k).mp (h'.present k hk)).2 (he ▸ hid)
  present id hid := by
    rcases List.mem_append.mp hid with hid | hid
    · exact h.present id hid
    · exact ((h.stays id).mp (h'.present id hid)).1
  stays id := by
    rw [h'.stays, h.stays, List.mem_append, not_or, and_assoc]

/-- The table may change as long as the same connections are in it. -/
theorem congr (h : Parted gone m m') (hjournal : m''.journal = m'.journal)
    (htable : ∀ id, (m''.board.get? id).isSome = (m'.board.get? id).isSome) :
    Parted gone m m'' where
  told := by
    rw [hjournal]
    exact h.told
  nodup := h.nodup
  present := h.present
  stays id := by rw [htable, h.stays]

/-- Something else is noted. -/
theorem note {entry : Entry} (h : Parted gone m m') (hother : entry.dropped = []) :
    Parted gone m (m'.record entry) where
  told := by
    obtain ⟨done, hjournal, hdrops⟩ := h.told
    refine ⟨entry :: done, congrArg (entry :: ·) hjournal, ?_⟩
    rw [drops, gathered_cons_of_nil hother, ← drops, hdrops]
  nodup := h.nodup
  present := h.present
  stays := h.stays

theorem call (h : Parted gone m m') (call : Outgoing String) : Parted gone m (m'.call call) := by
  have hcarried : Parted gone m { m' with board := m'.board.carryOut call } := by
    refine h.congr rfl fun id => ?_
    change ((m'.board.carryOut call).get? id).isSome = _
    rw [Switchboard.get?_carryOut, Option.isSome_map]
  exact hcarried.note rfl

/-- A connection of the table is put back changed. -/
theorem put {c' : Connection} (h : Parted gone m m') (hc : m'.board.get? id = some c) :
    Parted gone m { m' with board := m'.board.put id c' } := by
  refine h.congr rfl fun k => ?_
  change ((m'.board.put id c').get? k).isSome = _
  rw [Switchboard.get?_put]
  split
  · rename_i hk
    rw [← hk, hc, Option.isSome_some, Option.isSome_some]
  · rfl

/-- A connection leaves the table, and the handler is told. -/
theorem close (hc : m.board.get? id = some c) (cause : Closing) :
    Parted [id] m (Multiplexer.close handler m id cause) := by
  rw [close_of_get? hc]
  refine raise_keeps ?_ fun call h => h.call call
  have hnodup : [id].Nodup := List.nodup_cons.mpr ⟨List.not_mem_nil, List.nodup_nil⟩
  refine ⟨⟨[_, _], rfl, rfl⟩, hnodup, fun k hk => ?_, fun k => ?_⟩
  · rw [List.mem_singleton.mp hk, hc, Option.isSome_some]
  · change ((m.board.remove id).get? k).isSome = true ↔ _
    rw [Switchboard.get?_remove, List.mem_singleton]
    by_cases hk : id = k
    · simp [hk]
    · simp [hk, Ne.symm hk]

end Parted

theorem Chore.parted (h : Chore net handler m m') : ∃ gone, Parted gone m m' := by
  cases h with
  | asked => exact ⟨[], (Parted.refl m).congr rfl fun _ => rfl⟩
  | @wrote id c hc =>
    have hput : Parted [] m
        { m with board := m.board.put id { c with outbound := (m.flushed net id c).left } } :=
      (Parted.refl m).put hc
    have hhost : Parted [] m
        { m with host := (net.write m.host id c.outbound).2,
                 board := m.board.put id { c with outbound := (m.flushed net id c).left } } :=
      hput.congr rfl fun _ => rfl
    exact ⟨[], written_keeps (hhost.note rfl) fun hwrote => hwrote.note rfl⟩
  | @armed id c hc =>
    have hput : Parted [] m
        { m with board := m.board.put id { c with watchesWrites := c.hasOutput } } :=
      (Parted.refl m).put hc
    exact ⟨[], hput.congr rfl fun _ => rfl⟩
  | taken => exact ⟨[], (Parted.refl m).congr rfl fun _ => rfl⟩
  | released hc => exact ⟨_, Parted.close hc _⟩
  | refused hc => exact ⟨_, Parted.close hc _⟩

theorem settle_parted (net : Host ε) (handler : Handler σ) (m : Multiplexer σ ε) :
    ∃ gone, Parted gone m (settle net handler m) := by
  refine settle_keeps net handler (P := fun after => ∃ gone, Parted gone m after) ?_
    ⟨[], Parted.refl m⟩
  rintro after after' hchore ⟨gone, h⟩
  obtain ⟨gone', h'⟩ := hchore.parted
  exact ⟨gone ++ gone', h.trans h'⟩

/-- Applying changes ends for every server, whatever is called for and however writing turns out,
in no more passes than open connections and two. Nobody waits then, and of no connection was
told twice that it is gone, and only of such that were in the table and have left it. -/
theorem settling_ends (net : Host ε) (handler : Handler σ) (m : Multiplexer σ ε) :
    ∃ passes ≤ m.board.count + 2,
      (∀ n m', Settles net handler n m m' ↔ n = passes ∧ m' = settle net handler m) ∧
      (settle net handler m).board.pending = [] ∧
      ∃ done, (settle net handler m).journal = done ++ m.journal ∧ (drops done).Nodup ∧
        ∀ id ∈ drops done, (m.board.get? id).isSome = true ∧
          (settle net handler m).board.get? id = none := by
  obtain ⟨passes, hpasses, hsettles⟩ :
      ∃ n ≤ m.board.count + 2, Settles net handler n m (settle net handler m) :=
    settles_settleWithin (by omega)
  refine ⟨passes, hpasses, fun n m' => ⟨fun h => h.unique hsettles, ?_⟩, hsettles.pending, ?_⟩
  · rintro ⟨rfl, rfl⟩
    exact hsettles
  · obtain ⟨gone, ⟨done, hjournal, rfl⟩, hnodup, hpresent, hstays⟩ := settle_parted net handler m
    refine ⟨done, hjournal, hnodup, fun id hid => ⟨hpresent id hid, ?_⟩⟩
    rw [← Option.not_isSome_iff_eq_none, hstays]
    exact fun hstill => hstill.2 hid

end Multiplexer

end RelayChat
