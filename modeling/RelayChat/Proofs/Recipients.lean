import RelayChat.Proofs.ByteOrder
import RelayChat.Proofs.Greetings
import RelayChat.Proofs.NicknameRegistry

/-!
# Who receives what is sent to a channel

The recipients of a channel's messages are found by looking up the holder of each
member. A nickname and its holder determine each other, so nobody is lost
(`mem_recipients`), and since the members come in ascending order, nobody is there
twice: the recipients stand in the order of their nicknames' bytes
(`recipients_ordered`).
-/

namespace RelayChat

/-- One nickname comes before another in the order of their bytes. -/
def ByteBefore (n m : String) : Prop :=
  LossyUtf8.encode n < LossyUtf8.encode m

instance (n m : String) : Decidable (ByteBefore n m) :=
  inferInstanceAs (Decidable (LossyUtf8.encode n < LossyUtf8.encode m))

/-- A set of nicknames is listed in the order of their bytes. -/
theorem byteBefore_toList (set : NicknameSet) : set.toList.Pairwise ByteBefore :=
  (Std.ExtTreeSet.ordered_toList (t := set)).imp fun hlt =>
    LossyUtf8.encode_lt_encode (compareOfLessAndEq_eq_lt.mp hlt)

/-- Whatever is listed in the order of its names is listed once. -/
theorem nodup_of_byteBefore {α : Type} {name : α → String} {l : List α}
    (h : l.Pairwise fun a b => ByteBefore (name a) (name b)) : l.Nodup := by
  refine h.imp ?_
  rintro a b hbefore rfl
  exact List.lt_irrefl _ hbefore

namespace Outgoing

variable {α : Type} {id : Handle} {ids : List Handle} {payload : α}

theorem heardBy_sendAll :
    heardBy id (sendAll ids payload) = List.replicate (ids.count id) payload := by
  induction ids with
  | nil => rfl
  | cons who ids ih =>
    rw [sendAll, List.map_cons, List.count_cons]
    change heardBy id ([.send who payload] ++ sendAll ids payload) = _
    rw [heardBy_append, ih]
    by_cases hwho : who = id <;> simp [heardBy, hwho, List.replicate_succ]

/-- Nobody is sent anything twice who is listed once. -/
theorem heardBy_sendAll_of_nodup (hnodup : ids.Nodup) :
    heardBy id (sendAll ids payload) = if id ∈ ids then [payload] else [] := by
  rw [heardBy_sendAll, hnodup.count]
  split <;> rfl

end Outgoing

namespace Directory

variable {d : Directory} {c : Channel} {without : Option Handle} {k : Handle}

/-- Everybody on a channel receives what is sent to it, unless left out. -/
theorem mem_recipients (agree : d.NicknamesAgree) :
    k ∈ d.recipients c without ↔
      some k ≠ without ∧ ∃ n, n ∈ c.members ∧ d.nickname? k = some n := by
  simp only [recipients, List.mem_filter, List.mem_filterMap, Std.ExtTreeSet.mem_toList,
    bne_iff_ne, agree.holder_iff]
  exact and_comm

/-- What is sent to all on a channel reaches the sessions whose nicknames are on it. -/
theorem mem_recipients_none (agree : d.NicknamesAgree) : k ∈ d.recipients c none ↔
    ∃ s n, d.session? k = some s ∧ s.nickname = some n ∧ n ∈ c.members := by
  rw [mem_recipients agree]
  simp only [nickname?_eq_some_iff]
  constructor
  · rintro ⟨-, n, hn, s, hs, hsn⟩
    exact ⟨s, n, hs, hsn, hn⟩
  · rintro ⟨s, n, hs, hsn, hn⟩
    exact ⟨Option.some_ne_none k, n, hn, s, hs, hsn⟩

/-- The recipients stand in the order of their nicknames' bytes. -/
theorem recipients_ordered (agree : d.NicknamesAgree) :
    (d.recipients c without).Pairwise fun j k => ByteBefore (d.address j) (d.address k) := by
  unfold recipients
  apply List.Pairwise.filter
  rw [List.pairwise_filterMap]
  refine (byteBefore_toList c.members).imp ?_
  intro n m hbefore j hj k hk
  rwa [address_of_nickname? ((agree.holder_iff n j).mp hj),
    address_of_nickname? ((agree.holder_iff m k).mp hk)]

/-- Nobody is there twice. -/
theorem recipients_nodup (agree : d.NicknamesAgree) : (d.recipients c without).Nodup :=
  nodup_of_byteBefore (recipients_ordered agree)

end Directory

end RelayChat
