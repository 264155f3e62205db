import RelayChat.Directory

/-!
# Looking things up after a change

A directory is read through three look-ups: the session of a connection, the
holder of a nickname and the channel of a name. Each operation is described here
by what it does to the three, so that later arguments never open the maps. The
look-ups that an operation leaves alone are simplification rules.
-/

namespace RelayChat

namespace Channel

/-- Who is on a channel that has just been created. -/
theorem mem_members_create {name n m : String} : m ∈ (create name n).members ↔ n = m := by
  simp [create, promote, add]

/-- Who is an operator of a channel that has just been created. -/
theorem mem_operators_create {name n m : String} : m ∈ (create name n).operators ↔ n = m := by
  simp [create, promote, add]

/-- Who is on a channel after somebody came in. -/
theorem mem_members_add {c : Channel} {n m : String} :
    m ∈ (c.add n).members ↔ n = m ∨ m ∈ c.members := by
  simp [add]

/-- Who is on a channel after somebody left. -/
theorem mem_members_remove {c : Channel} {n m : String} :
    m ∈ (c.remove n).members ↔ n ≠ m ∧ m ∈ c.members := by
  simp [remove]

/-- Who is an operator after somebody left. -/
theorem mem_operators_remove {c : Channel} {n m : String} :
    m ∈ (c.remove n).operators ↔ n ≠ m ∧ m ∈ c.operators := by
  simp [remove]

/-- A nickname that is in the set gives way to the new one. -/
theorem mem_renameIn {set : NicknameSet} {old new m : String} (h : old ∈ set) :
    m ∈ renameIn set old new ↔ new = m ∨ (old ≠ m ∧ m ∈ set) := by
  have hc : set.contains old = true := Std.ExtTreeSet.contains_iff_mem.mpr h
  simp [renameIn, hc]

/-- A change of a nickname that is not in the set changes nothing. -/
theorem renameIn_of_not_mem {set : NicknameSet} {old new : String} (h : old ∉ set) :
    renameIn set old new = set := by
  have hc : ¬set.contains old = true := fun hc => h (Std.ExtTreeSet.contains_iff_mem.mp hc)
  rw [renameIn, if_neg hc]

/-- A change of nickname moves nobody else. -/
theorem mem_renameIn_of_ne {set : NicknameSet} {old new n : String} (hold : old ≠ n)
    (hnew : new ≠ n) : n ∈ renameIn set old new ↔ n ∈ set := by
  by_cases h : old ∈ set
  · rw [mem_renameIn h]
    exact ⟨fun hm => (hm.resolve_left hnew).2, fun hm => Or.inr ⟨hold, hm⟩⟩
  · rw [renameIn_of_not_mem h]

/-- A change of a nickname that is not on a channel changes nothing of it. -/
theorem rename_of_not_mem {c : Channel} {old new : String} (h : old ∉ c.members)
    (ho : old ∉ c.operators) : c.rename old new = c := by
  rw [rename, renameIn_of_not_mem h, renameIn_of_not_mem ho]

/-- Nothing is taken off where the nickname is not. -/
theorem remove_of_not_mem {c : Channel} {n : String} (h : n ∉ c.members)
    (ho : n ∉ c.operators) : c.remove n = c := by
  have herase : ∀ set : NicknameSet, n ∉ set → set.erase n = set := by
    intro set hn
    refine Std.ExtTreeSet.ext_mem fun m => ?_
    rw [Std.ExtTreeSet.mem_erase, Ne, Std.LawfulEqCmp.compare_eq_iff_eq]
    exact ⟨fun hm => hm.2, fun hm => ⟨fun he => hn (he ▸ hm), hm⟩⟩
  rw [remove, herase _ h, herase _ ho]

/-- Membership as it is tested. -/
theorem isMember_iff {c : Channel} {n : String} : c.isMember n = true ↔ n ∈ c.members := by
  simp [isMember]

/-- Somebody is on every channel that does not count as empty. -/
theorem isEmpty_eq_false_iff {c : Channel} : c.isEmpty = false ↔ ∃ n, n ∈ c.members := by
  simp [isEmpty, Std.ExtTreeSet.eq_empty_iff_forall_not_mem]

end Channel

namespace Directory

variable {d : Directory} {id k : Handle} {n m : String} {s : Session}

/-! ## Sessions -/

@[simp] theorem session?_empty : empty.session? k = none := by
  simp [empty, session?]

/-- A fresh session is found under its own handle only. -/
theorem session?_openSession :
    (d.openSession id).session? k = if id = k then some Session.fresh else d.session? k := by
  simp [openSession, session?, Std.ExtTreeMap.getElem?_insert]

/-- A change of one session leaves all others alone. -/
theorem session?_updateSession {f : Session → Session} :
    (d.updateSession id f).session? k =
      if id = k then (d.session? id).map f else d.session? k := by
  simp [updateSession, session?, Std.ExtTreeMap.getElem?_modify]

@[simp] theorem session?_putChannel {c : Channel} :
    (d.putChannel c).session? k = d.session? k := rfl

@[simp] theorem session?_updateChannel {f : Channel → Channel} :
    (d.updateChannel n f).session? k = d.session? k := rfl

@[simp] theorem session?_leaveChannel : (d.leaveChannel n m).session? k = d.session? k := rfl

@[simp] theorem session?_leaveAll : (d.leaveAll n).session? k = d.session? k := rfl

@[simp] theorem session?_releaseNickname :
    (d.releaseNickname id n).session? k = d.session? k := by
  unfold releaseNickname
  split <;> rfl

/-- The new nickname is noted in the session of the connection that takes it. -/
theorem session?_takeNickname :
    (d.takeNickname id n).session? k =
      if id = k then (d.session? id).map ({ · with nickname := some n }) else d.session? k := by
  unfold takeNickname
  cases hs : d.session? id with
  | none =>
    dsimp only
    split
    · rename_i he
      rw [← he, hs, Option.map_none]
    · rfl
  | some s =>
    dsimp only
    cases s.nickname <;> simp [session?, renameEverywhere, Std.ExtTreeMap.getElem?_insert]

/-- A connection that is forgotten has no session, and nobody else loses one. -/
theorem session?_closeSession :
    (d.closeSession id).session? k = if id = k then none else d.session? k := by
  have herase : Directory.session? { d with sessions := d.sessions.erase id } k =
      if id = k then none else d.session? k := by
    simp [session?, Std.ExtTreeMap.getElem?_erase]
  unfold closeSession
  cases hs : d.session? id with
  | none =>
    dsimp only
    split
    · rename_i he
      rw [← he, hs]
    · rfl
  | some s =>
    dsimp only
    cases s.nickname with
    | none => exact herase
    | some old => rw [session?_leaveAll, session?_releaseNickname, herase]

/-! ## Holders of nicknames -/

@[simp] theorem holder?_empty : empty.holder? n = none := by
  simp [empty, holder?]

@[simp] theorem holder?_openSession : (d.openSession id).holder? n = d.holder? n := rfl

@[simp] theorem holder?_updateSession {f : Session → Session} :
    (d.updateSession id f).holder? n = d.holder? n := rfl

@[simp] theorem holder?_putChannel {c : Channel} : (d.putChannel c).holder? n = d.holder? n := rfl

@[simp] theorem holder?_updateChannel {f : Channel → Channel} :
    (d.updateChannel m f).holder? n = d.holder? n := rfl

@[simp] theorem holder?_leaveChannel {c : String} :
    (d.leaveChannel c m).holder? n = d.holder? n := rfl

@[simp] theorem holder?_leaveAll : (d.leaveAll m).holder? n = d.holder? n := rfl

/-- The nickname that is taken gets its new holder, and the one that was given
up for it becomes free. -/
theorem holder?_takeNickname (hs : d.session? id = some s) :
    (d.takeNickname id m).holder? n =
      if m = n then some id else if s.nickname = some n then none else d.holder? n := by
  unfold takeNickname
  rw [hs]
  dsimp only
  cases s.nickname <;>
    simp [holder?, renameEverywhere, Std.ExtTreeMap.getElem?_insert,
      Std.ExtTreeMap.getElem?_erase]

/-- A nickname is freed only by the connection that holds it. -/
theorem holder?_releaseNickname :
    (d.releaseNickname id m).holder? n =
      if m = n ∧ d.holder? m = some id then none else d.holder? n := by
  by_cases hm : d.holder? m = some id
  · have herase : Directory.holder? { d with holders := d.holders.erase m } n =
        if m = n then none else d.holder? n := by
      simp [holder?, Std.ExtTreeMap.getElem?_erase]
    rw [releaseNickname, if_pos hm, herase]
    simp only [hm, and_true]
  · rw [releaseNickname, if_neg hm, if_neg fun h => hm h.2]

/-- A connection that is forgotten frees the nickname of its session if it holds
it, and no other one. -/
theorem holder?_closeSession (hs : d.session? id = some s) :
    (d.closeSession id).holder? n =
      if s.nickname = some n ∧ d.holder? n = some id then none else d.holder? n := by
  unfold closeSession
  rw [hs]
  dsimp only
  cases hn : s.nickname with
  | none => simp [holder?]
  | some old =>
    dsimp only
    rw [holder?_leaveAll, holder?_releaseNickname]
    by_cases he : old = n
    · subst he
      simp [holder?]
    · simp [he, holder?]

/-! ## Channels -/

@[simp] theorem channel?_empty : empty.channel? n = none := by
  simp [empty, channel?]

@[simp] theorem channel?_openSession : (d.openSession id).channel? n = d.channel? n := rfl

@[simp] theorem channel?_updateSession {f : Session → Session} :
    (d.updateSession id f).channel? n = d.channel? n := rfl

@[simp] theorem channel?_releaseNickname :
    (d.releaseNickname id m).channel? n = d.channel? n := by
  unfold releaseNickname
  split <;> rfl

/-- A channel that is put in is found under its own name only. -/
theorem channel?_putChannel {c : Channel} :
    (d.putChannel c).channel? n = if c.name = n then some c else d.channel? n := by
  simp [putChannel, channel?, Std.ExtTreeMap.getElem?_insert]

/-- A change of one channel leaves all others alone. -/
theorem channel?_updateChannel {f : Channel → Channel} :
    (d.updateChannel m f).channel? n =
      if m = n then (d.channel? m).map f else d.channel? n := by
  simp [updateChannel, channel?, Std.ExtTreeMap.getElem?_modify]

/-- Leaving one channel leaves all others alone. -/
theorem channel?_leaveChannel {c : String} :
    (d.leaveChannel c m).channel? n =
      if c = n then (d.channel? c).bind (leave? m) else d.channel? n := by
  simp [leaveChannel, channel?, Std.ExtTreeMap.getElem?_alter]

/-- Leaving all channels is leaving each of them. -/
theorem channel?_leaveAll : (d.leaveAll m).channel? n = (d.channel? n).bind (leave? m) := by
  simp [leaveAll, channel?]

/-- A change of nickname reaches every channel; a first nickname reaches none. -/
theorem channel?_takeNickname (hs : d.session? id = some s) :
    (d.takeNickname id m).channel? n =
      match s.nickname with
      | some old => (d.channel? n).map (Channel.rename · old m)
      | none => d.channel? n := by
  unfold takeNickname
  rw [hs]
  dsimp only
  cases s.nickname <;> simp [channel?, renameEverywhere]

/-- A connection that is forgotten leaves all channels. -/
theorem channel?_closeSession (hs : d.session? id = some s) :
    (d.closeSession id).channel? n =
      match s.nickname with
      | some old => (d.channel? n).bind (leave? old)
      | none => d.channel? n := by
  unfold closeSession
  rw [hs]
  dsimp only
  cases s.nickname with
  | none => rfl
  | some old =>
    dsimp only
    rw [channel?_leaveAll, channel?_releaseNickname]
    rfl

/-- What is left of a channel is the channel without the nickname, and somebody
is still on it. -/
theorem leave?_eq_some_iff {c left : Channel} :
    leave? n c = some left ↔ left = c.remove n ∧ ∃ m, m ∈ left.members := by
  rw [← Channel.isEmpty_eq_false_iff]
  unfold leave?
  dsimp only
  constructor
  · intro h
    split at h
    · cases h
    · rename_i hne
      cases h
      exact ⟨rfl, Bool.eq_false_iff.mpr hne⟩
  · rintro ⟨rfl, hne⟩
    rw [if_neg (Bool.eq_false_iff.mp hne)]

/-- A channel goes when nobody else is on it. -/
theorem leave?_eq_none_iff {c : Channel} : leave? n c = none ↔ ∀ m, m ∈ c.members → m = n := by
  rw [Option.eq_none_iff_forall_ne_some]
  constructor
  · intro hgone m hm
    refine Decidable.byContradiction fun hne => ?_
    have hleft : m ∈ (c.remove n).members := Channel.mem_members_remove.mpr ⟨Ne.symm hne, hm⟩
    exact hgone _ (leave?_eq_some_iff.mpr ⟨rfl, m, hleft⟩)
  · intro honly left hleft
    obtain ⟨rfl, m, hm⟩ := leave?_eq_some_iff.mp hleft
    obtain ⟨hne, hm⟩ := Channel.mem_members_remove.mp hm
    exact hne (honly m hm).symm

/-! ## What is read off the look-ups -/

section Congr

variable {d' : Directory}

/-- Whoever keeps its session is addressed as before. -/
theorem address_congr (h : d'.session? id = d.session? id) : d'.address id = d.address id := by
  rw [address, h, address]

/-- Whoever keeps its session signs as before. -/
theorem origin_congr (h : d'.session? id = d.session? id) : d'.origin id = d.origin id := by
  rw [origin, h, origin]

/-- Whoever keeps its session stays logged in, or not. -/
theorem isLoggedIn_congr (h : d'.session? id = d.session? id) :
    d'.isLoggedIn id = d.isLoggedIn id := by
  rw [isLoggedIn, h, isLoggedIn]

/-- A channel has the same recipients as long as nicknames have the same holders. -/
theorem recipients_congr (h : ∀ n, d'.holder? n = d.holder? n) (c : Channel)
    (without : Option Handle) : d'.recipients c without = d.recipients c without := by
  have hholder : d'.holder? = d.holder? := funext h
  rw [recipients, hholder, recipients]

end Congr

/-- Directories in which the same is found are the same. -/
theorem ext_lookups {d' : Directory} (hs : ∀ k, d.session? k = d'.session? k)
    (hn : ∀ n, d.holder? n = d'.holder? n) (hc : ∀ n, d.channel? n = d'.channel? n) : d = d' := by
  have hsessions : d.sessions = d'.sessions := Std.ExtTreeMap.ext_getElem? fun k => hs k
  have hholders : d.holders = d'.holders := Std.ExtTreeMap.ext_getElem? fun n => hn n
  have hchannels : d.channels = d'.channels := Std.ExtTreeMap.ext_getElem? fun n => hc n
  cases d
  cases d'
  simp only at hsessions hholders hchannels
  rw [hsessions, hholders, hchannels]

/-- A directory in which nothing is found is empty. -/
theorem eq_empty_of_lookups (hs : ∀ k, d.session? k = none) (hn : ∀ n, d.holder? n = none)
    (hc : ∀ n, d.channel? n = none) : d = empty :=
  ext_lookups (fun k => (hs k).trans session?_empty.symm)
    (fun n => (hn n).trans holder?_empty.symm) fun n => (hc n).trans channel?_empty.symm

end Directory

end RelayChat
