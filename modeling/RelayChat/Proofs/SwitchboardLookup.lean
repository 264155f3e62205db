import RelayChat.Switchboard

/-!
# Connections after a change

The table of connections is read through one look-up. A call acts on each connection
by itself (`get?_carryOut`): it changes no connection that it does not name, brings
none into the table and takes none out, so that their number stays (`count_carryOut`).
A broadcast takes the connections in the order of their handles, and any other order
would leave the same connections and let the same ones wait (`alike_broadcast`).
-/

namespace RelayChat

namespace Handle

variable {α β : Type}

/-- Every handle is in a table once. -/
theorem nodup_keys (table : Std.ExtTreeMap Handle α) : table.keys.Nodup := by
  refine Std.ExtTreeMap.distinct_keys.imp ?_
  intro a b hab he
  exact hab (Std.compare_eq_iff_eq.mpr he)

/-- Tables of the same handles are of the same size. -/
theorem size_eq_of_mem_iff {table : Std.ExtTreeMap Handle α} {other : Std.ExtTreeMap Handle β}
    (h : ∀ id, id ∈ table ↔ id ∈ other) : table.size = other.size := by
  have hperm : table.keys.Perm other.keys := by
    refine (List.perm_ext_iff_of_nodup (nodup_keys table) (nodup_keys other)).mpr fun id => ?_
    rw [Std.ExtTreeMap.mem_keys, Std.ExtTreeMap.mem_keys, h]
  rw [← Std.ExtTreeMap.length_keys, hperm.length_eq, Std.ExtTreeMap.length_keys]

end Handle

namespace Connection

/-- A text is queued unless the connection is to be closed. -/
def offer (c : Connection) (text : String) : Connection :=
  if c.closing then c else c.queue (LossyUtf8.encode text)

@[simp] theorem closing_offer {c : Connection} {text : String} :
    (c.offer text).closing = c.closing := by
  unfold offer
  split <;> rfl

@[simp] theorem closing_receive {c : Connection} {bytes : List UInt8} :
    (c.receive bytes).1.closing = c.closing := rfl

end Connection

namespace Outgoing

/-- What a call does to the connection of a handle. -/
def actOn (k : Handle) : Outgoing String → Connection → Connection
  | send who text, c => if who = k then c.offer text else c
  | broadcast text, c => c.offer text
  | disconnect who, c => if who = k then { c with closing := true } else c

end Outgoing

namespace Switchboard

variable {board : Switchboard} {id k : Handle} {c : Connection} {text : String}

@[simp] theorem get?_empty : empty.get? k = none := by
  simp [empty, get?]

theorem get?_put : (board.put id c).get? k = if id = k then some c else board.get? k := by
  simp [put, get?, Std.ExtTreeMap.getElem?_insert]

theorem get?_put_self (board : Switchboard) (id : Handle) (c : Connection) :
    (board.put id c).get? id = some c :=
  get?_put.trans (if_pos rfl)

theorem get?_remove : (board.remove id).get? k = if id = k then none else board.get? k := by
  simp [remove, get?, Std.ExtTreeMap.getElem?_erase]

@[simp] theorem get?_mark : (board.mark id).get? k = board.get? k := by
  unfold mark
  split <;> rfl

theorem accepts_iff :
    board.accepts id = true ↔ ∃ c, board.get? id = some c ∧ c.closing = false := by
  simp [accepts, Option.any_eq_true]

/-- A text for one connection is offered to it alone. -/
theorem get?_send :
    (board.send id text).get? k =
      if id = k then (board.get? k).map (·.offer text) else board.get? k := by
  by_cases hk : id = k
  · subst hk
    rw [if_pos rfl]
    unfold send
    cases hc : board.get? id with
    | none => exact hc
    | some c =>
      dsimp only
      rw [Option.map_some, Connection.offer]
      cases c.closing with
      | true => exact hc
      | false =>
        simp only [Bool.false_eq_true, if_false]
        split <;> simp only [get?_mark, get?_put, if_true]
  · rw [if_neg hk]
    unfold send
    cases board.get? id with
    | none => rfl
    | some c =>
      dsimp only
      split
      · rfl
      · split <;> simp only [get?_mark, get?_put, if_neg hk]

/-- Exactly the connections that can be looked up are in the table. -/
theorem mem_keys_iff : k ∈ board.connections.keys ↔ (board.get? k).isSome = true := by
  rw [Std.ExtTreeMap.mem_keys, get?, Std.ExtTreeMap.isSome_getElem?_iff_mem]

/-- A text for everybody is offered to each connection once. -/
theorem get?_broadcast :
    (board.broadcast text).get? k = (board.get? k).map (·.offer text) := by
  have hfold : ∀ ids : List Handle, ids.Nodup → ∀ board : Switchboard,
      (ids.foldl (fun board id => board.send id text) board).get? k =
        if k ∈ ids then (board.get? k).map (·.offer text) else board.get? k := by
    intro ids
    induction ids with
    | nil => exact fun _ _ => rfl
    | cons id ids ih =>
      intro hnodup board
      obtain ⟨hid, hids⟩ := List.nodup_cons.mp hnodup
      rw [List.foldl_cons, ih hids, get?_send]
      by_cases hk : id = k
      · subst hk
        rw [if_neg hid, if_pos rfl, if_pos List.mem_cons_self]
      · rw [if_neg hk]
        simp only [List.mem_cons, Ne.symm hk, false_or]
  unfold broadcast
  rw [hfold _ (Handle.nodup_keys _)]
  split
  · rfl
  · rename_i hk
    have hnone : board.get? k = none := by
      rwa [mem_keys_iff, Option.not_isSome_iff_eq_none] at hk
    rw [hnone, Option.map_none]

/-! ## The order of a broadcast -/

/-- Boards with the same connections, of which the same ones wait. -/
structure Alike (board board' : Switchboard) : Prop where
  /-- The connections are the same. -/
  connections : board.connections = board'.connections
  /-- The same ones wait, in whatever order. -/
  pending : board.pending.Perm board'.pending

theorem Alike.refl (board : Switchboard) : board.Alike board := ⟨rfl, .refl _⟩

theorem Alike.trans {board' board'' : Switchboard} (h : board.Alike board')
    (h' : board'.Alike board'') : board.Alike board'' :=
  ⟨h.connections.trans h'.connections, h.pending.trans h'.pending⟩

/-- Whether a text makes a connection wait that did not: it is the first output to go out. -/
def wakes (board : Switchboard) (id : Handle) (text : String) : Bool :=
  (board.get? id).any (fun c => !c.closing && !c.hasOutput && !text.isEmpty) &&
    !board.pending.contains id

theorem pending_mark : (board.mark id).pending =
    board.pending ++ if board.pending.contains id then [] else [id] := by
  unfold mark
  split
  · exact (List.append_nil _).symm
  · rfl

theorem pending_send :
    (board.send id text).pending = board.pending ++ if board.wakes id text then [id] else [] := by
  unfold send wakes
  cases board.get? id with
  | none => exact (List.append_nil _).symm
  | some c =>
    rw [Option.any_some]
    dsimp only
    split
    · rename_i hclosing
      simp [hclosing]
    · rename_i hopen
      split
      · rename_i hfirst
        simp [hopen, hfirst, pending_mark, put]
      · rename_i hfirst
        simp [hopen, hfirst, put]

/-- Texts for the same connections are queued alike. -/
theorem Alike.send {board' : Switchboard} (h : board.Alike board') :
    (board.send id text).Alike (board'.send id text) := by
  have hget? (k : Handle) : board.get? k = board'.get? k := by rw [get?, get?, h.connections]
  refine ⟨Std.ExtTreeMap.ext_getElem? fun k => ?_, ?_⟩
  · change (board.send id text).get? k = (board'.send id text).get? k
    rw [get?_send, get?_send, hget?]
  · have hwakes : board.wakes id text = board'.wakes id text := by
      rw [wakes, wakes, hget?, h.pending.contains_eq]
    rw [pending_send, pending_send, hwakes]
    exact h.pending.append_right _

theorem wakes_send_of_ne (hk : id ≠ k) :
    (board.send id text).wakes k text = board.wakes k text := by
  have hcontains : (board.send id text).pending.contains k = board.pending.contains k := by
    rw [pending_send]
    split <;> simp [Ne.symm hk]
  rw [wakes, wakes, hcontains, get?_send, if_neg hk]

/-- Of two connections each may be the first to which a text is queued. -/
theorem alike_send_send (board : Switchboard) (id k : Handle) (text : String) :
    ((board.send id text).send k text).Alike ((board.send k text).send id text) := by
  by_cases hk : id = k
  · subst hk
    exact .refl _
  · refine ⟨Std.ExtTreeMap.ext_getElem? fun other => ?_, ?_⟩
    · change ((board.send id text).send k text).get? other =
        ((board.send k text).send id text).get? other
      simp only [get?_send]
      by_cases hid : id = other
      · rw [if_pos hid, if_neg (hid ▸ Ne.symm hk), if_pos hid, if_neg (hid ▸ Ne.symm hk)]
      · rw [if_neg hid, if_neg hid]
    · rw [pending_send, wakes_send_of_ne hk, pending_send, pending_send,
        wakes_send_of_ne (Ne.symm hk), pending_send, List.append_assoc, List.append_assoc]
      exact List.perm_append_comm.append_left board.pending

/-- The order of a broadcast makes no difference but to the order in which connections wait. -/
theorem alike_broadcast {ids : List Handle} (h : ids.Perm board.connections.keys) :
    (ids.foldl (fun board id => board.send id text) board).Alike (board.broadcast text) := by
  have hcongr (ids : List Handle) {board board' : Switchboard} (h : board.Alike board') :
      (ids.foldl (fun board id => board.send id text) board).Alike
        (ids.foldl (fun board id => board.send id text) board') := by
    induction ids generalizing board board' with
    | nil => exact h
    | cons id ids ih => exact ih h.send
  rw [broadcast]
  generalize board.connections.keys = keys at h
  induction h generalizing board with
  | nil => exact .refl board
  | cons id _ ih => exact ih
  | swap id k ids => exact hcongr ids (alike_send_send board k id text)
  | trans _ _ ih ih' => exact ih.trans ih'

/-- A request to close marks one connection alone. -/
theorem get?_disconnect :
    (board.disconnect id).get? k =
      if id = k then (board.get? k).map ({ · with closing := true }) else board.get? k := by
  by_cases hk : id = k
  · subst hk
    rw [if_pos rfl]
    unfold disconnect
    cases hc : board.get? id with
    | none => exact hc
    | some c =>
      obtain ⟨inbound, framer, outbound, watchesWrites, closing⟩ := c
      cases closing with
      | true => exact hc
      | false =>
        simp only [Bool.false_eq_true, if_false, get?_mark, get?_put, if_true, Option.map_some]
  · rw [if_neg hk]
    unfold disconnect
    cases board.get? id with
    | none => rfl
    | some c =>
      dsimp only
      split
      · rfl
      · simp only [get?_mark, get?_put, if_neg hk]

/-- A call acts on each connection by itself. -/
theorem get?_carryOut (call : Outgoing String) :
    (board.carryOut call).get? k = (board.get? k).map (call.actOn k) := by
  cases call with
  | send who text =>
    rw [carryOut, get?_send]
    by_cases hk : who = k <;> cases board.get? k <;> simp [Outgoing.actOn, hk]
  | broadcast text => exact get?_broadcast
  | disconnect who =>
    rw [carryOut, get?_disconnect]
    by_cases hk : who = k <;> cases board.get? k <;> simp [Outgoing.actOn, hk]

/-! ## How many there are -/

@[simp] theorem count_empty : empty.count = 0 := by
  simp [empty, count]

/-- A table without connections counts none. -/
theorem count_of_none (h : ∀ id, board.get? id = none) : board.count = 0 := by
  have hkeys : board.connections.keys = [] := by
    refine List.eq_nil_iff_forall_not_mem.mpr fun id hid => ?_
    rw [mem_keys_iff, h id] at hid
    cases hid
  rw [count, ← Std.ExtTreeMap.length_keys, hkeys, List.length_nil]

@[simp] theorem count_mark : (board.mark id).count = board.count := by
  unfold mark
  split <;> rfl

theorem contains_connections : board.connections.contains id = (board.get? id).isSome :=
  Std.ExtTreeMap.contains_eq_isSome_getElem?

/-- A connection that changes does not count anew. -/
theorem count_put_of_get? {c' : Connection} (hc : board.get? id = some c) :
    (board.put id c').count = board.count := by
  rw [count, put, Std.ExtTreeMap.size_insert,
    contains_connections, hc, if_pos Option.isSome_some, count]

/-- A connection that comes counts. -/
theorem count_put_of_none (hid : board.get? id = none) :
    (board.put id c).count = board.count + 1 := by
  rw [count, put, Std.ExtTreeMap.size_insert,
    contains_connections, hid, if_neg (by decide), count]

/-- A connection that leaves counts no more. -/
theorem count_remove (hc : board.get? id = some c) :
    (board.remove id).count + 1 = board.count := by
  have hpos : board.connections.size ≠ 0 := by
    rw [Ne, ← Std.ExtTreeMap.eq_empty_iff_size_eq_zero]
    intro hempty
    rw [get?, hempty] at hc
    simp at hc
  rw [count, remove, Std.ExtTreeMap.size_erase,
    contains_connections, hc, if_pos Option.isSome_some, count]
  omega

theorem count_send : (board.send id text).count = board.count := by
  unfold send
  cases hc : board.get? id with
  | none => rfl
  | some c =>
    dsimp only
    split
    · rfl
    · split <;> simp only [count_mark, count_put_of_get? hc]

/-- Calls change neither who is connected nor how many are. -/
theorem count_carryOut (call : Outgoing String) : (board.carryOut call).count = board.count := by
  cases call with
  | send who text => exact count_send
  | broadcast text =>
    have hfold : ∀ (ids : List Handle) (board : Switchboard),
        (ids.foldl (fun board id => board.send id text) board).count = board.count := by
      intro ids
      induction ids with
      | nil => exact fun _ => rfl
      | cons id ids ih => exact fun board => (ih (board.send id text)).trans count_send
    exact hfold board.connections.keys board
  | disconnect who =>
    rw [carryOut, disconnect]
    cases hc : board.get? who with
    | none => rfl
    | some c =>
      dsimp only
      split
      · rfl
      · rw [count_mark, count_put_of_get? hc]

end Switchboard

end RelayChat
