import RelayChat.Proofs.DirectMessages

/-!
# The list of names and how it is read

The list of names puts operators first, with a sign in front of their nicknames, and all
other members behind them (`Channel.listedAs_entries`). Whoever reads it cuts it at its
spaces, takes an entry with the sign for an operator's and any other entry for a plain
member's. No nickname has a space in it, so the entries are found again
(`Channel.entries_namesList`).

Nothing keeps the sign out of nicknames. A plain member whose nickname begins with it is
read as an operator of a shorter nickname, and this is the only way to misread the list
(`Relay.names_read_back`).
-/

namespace RelayChat

open Directory

namespace Channel

/-- The members that are no operators, in the order in which they are listed. -/
def plainMembers (c : Channel) : List String :=
  c.members.toList.filter fun nickname => !c.isOperator nickname

/-- Two lists of nicknames that give the operators of a channel and its other members, each
of them once. -/
structure ListedAs (c : Channel) (operators others : List String) : Prop where
  /-- The first list has the operators. -/
  mem_operators : ∀ n, n ∈ operators ↔ n ∈ c.operators
  /-- The second list has all other members. -/
  mem_others : ∀ n, n ∈ others ↔ n ∈ c.members ∧ n ∉ c.operators
  /-- No operator is there twice. -/
  operators_nodup : operators.Nodup
  /-- No other member is there twice. -/
  others_nodup : others.Nodup

/-! ## What is listed -/

section Listed

variable {c : Channel} {n : String}

theorem nameEntries_eq :
    c.nameEntries = c.operators.toList.map (operatorSign ++ ·) ++ c.plainMembers := rfl

theorem mem_plainMembers : n ∈ c.plainMembers ↔ n ∈ c.members ∧ n ∉ c.operators := by
  rw [plainMembers, List.mem_filter, Std.ExtTreeSet.mem_toList, Bool.not_eq_true',
    ← Bool.not_eq_true, isOperator, Std.ExtTreeSet.contains_iff_mem]

theorem byteBefore_plainMembers (c : Channel) : c.plainMembers.Pairwise ByteBefore :=
  (byteBefore_toList c.members).filter _

/-- The entries are those of the operators and of the other members, each of them once. -/
theorem listedAs_entries (c : Channel) : c.ListedAs c.operators.toList c.plainMembers where
  mem_operators _ := Std.ExtTreeSet.mem_toList
  mem_others _ := mem_plainMembers
  operators_nodup := nodup_of_byteBefore (byteBefore_toList c.operators)
  others_nodup := nodup_of_byteBefore (byteBefore_plainMembers c)

/-- Nobody is in both lists. -/
theorem ListedAs.nodup {operators others : List String} (h : c.ListedAs operators others) :
    (operators ++ others).Nodup := by
  refine List.nodup_append.mpr ⟨h.operators_nodup, h.others_nodup, ?_⟩
  rintro n hn m hm rfl
  exact ((h.mem_others n).mp hm).2 ((h.mem_operators n).mp hn)

/-- Together they have all members. -/
theorem ListedAs.mem_append {operators others : List String} (h : c.ListedAs operators others)
    (hsub : n ∈ c.operators → n ∈ c.members) : n ∈ operators ++ others ↔ n ∈ c.members := by
  rw [List.mem_append, h.mem_operators, h.mem_others]
  constructor
  · rintro (ho | ⟨hm, -⟩)
    · exact hsub ho
    · exact hm
  · intro hm
    by_cases ho : n ∈ c.operators
    · exact Or.inl ho
    · exact Or.inr ⟨hm, ho⟩

end Listed

/-! ## How it is read -/

/-- The entries of a list of names: what stands between its spaces. -/
def entries (list : String) : List String :=
  (list.toList.splitOn ' ').map String.ofList

/-- The nickname behind the operators' sign; `none` for an entry without the sign. -/
def operator? (entry : String) : Option String :=
  match entry.toList with
  | '@' :: nickname => some (String.ofList nickname)
  | _ => none

/-- Who is read from a list of names as an operator. -/
def readOperators (list : String) : List String :=
  (entries list).filterMap operator?

/-- Who is read from a list of names as a plain member. -/
def readOthers (list : String) : List String :=
  (entries list).filter fun entry => (operator? entry).isNone

section Read

variable {c : Channel} {n entry : String}

/-- An entry is an operator's if it is the sign with a nickname behind it. -/
theorem operator?_eq_some_iff : operator? entry = some n ↔ entry = operatorSign ++ n := by
  have hsigned : (operatorSign ++ n).toList = '@' :: n.toList := by
    simp [operatorSign]
  rw [← String.toList_inj, hsigned, operator?]
  split
  · rename_i nickname hentry
    rw [hentry, Option.some.injEq, ← String.toList_inj, String.toList_ofList, List.cons.injEq]
    exact (and_iff_right rfl).symm
  · rename_i hplain
    exact ⟨nofun, fun he => absurd he (hplain n.toList)⟩

/-- Any other entry is a plain member's. -/
theorem operator?_eq_none_iff : operator? entry = none ↔ entry.toList.head? ≠ some '@' := by
  rw [operator?]
  split
  · rename_i nickname hentry
    rw [hentry]
    exact ⟨nofun, fun hne => absurd rfl hne⟩
  · rename_i hplain
    refine ⟨fun _ hhead => ?_, fun _ => rfl⟩
    obtain ⟨nickname, hentry⟩ := List.head?_eq_some_iff.mp hhead
    exact hplain nickname hentry

/-- The entries are found between the spaces if no entry has a space in it. -/
theorem entries_namesList (hne : c.nameEntries ≠ [])
    (hspace : ∀ entry ∈ c.nameEntries, ' ' ∉ entry.toList) :
    entries c.namesList = c.nameEntries := by
  have hchars : c.namesList.toList = [' '].intercalate (c.nameEntries.map String.toList) :=
    String.toList_intercalate
  have hcut : c.namesList.toList.splitOn ' ' = c.nameEntries.map String.toList := by
    rw [hchars]
    refine List.splitOn_intercalate ' ' ?_ (mt List.map_eq_nil_iff.mp hne)
    intro chars hmem
    obtain ⟨entry, hentry, rfl⟩ := List.mem_map.mp hmem
    exact hspace entry hentry
  have hback : String.ofList ∘ String.toList = id := funext fun _ => String.ofList_toList
  rw [entries, hcut, List.map_map, hback, List.map_id]

/-- Besides the operators, plain members with the sign are read as operators. -/
theorem readOperators_namesList (hentries : entries c.namesList = c.nameEntries) :
    readOperators c.namesList = c.operators.toList ++ c.plainMembers.filterMap operator? := by
  have hsigned : operator? ∘ (operatorSign ++ ·) = some :=
    funext fun _ => operator?_eq_some_iff.mpr rfl
  rw [readOperators, hentries, nameEntries_eq, List.filterMap_append, List.filterMap_map, hsigned,
    List.filterMap_some]

/-- Plain members without the sign are read as what they are. -/
theorem readOthers_namesList (hentries : entries c.namesList = c.nameEntries) :
    readOthers c.namesList = c.plainMembers.filter fun entry => (operator? entry).isNone := by
  have hsigned : (c.operators.toList.map (operatorSign ++ ·)).filter
      (fun entry => (operator? entry).isNone) = [] := by
    rw [List.filter_eq_nil_iff]
    intro entry hmem
    obtain ⟨n, -, rfl⟩ := List.mem_map.mp hmem
    rw [operator?_eq_some_iff.mpr rfl, Option.isNone_some]
    exact Bool.false_ne_true
  rw [readOthers, hentries, nameEntries_eq, List.filter_append, hsigned, List.nil_append]

/-- Who is read as an operator. -/
theorem mem_readOperators (hentries : entries c.namesList = c.nameEntries) :
    n ∈ readOperators c.namesList ↔
      n ∈ c.operators ∨ operatorSign ++ n ∈ c.members ∧ operatorSign ++ n ∉ c.operators := by
  rw [readOperators_namesList hentries, List.mem_append, Std.ExtTreeSet.mem_toList,
    List.mem_filterMap]
  simp only [operator?_eq_some_iff, exists_eq_right, mem_plainMembers]

/-- Who is read as a plain member. -/
theorem mem_readOthers (hentries : entries c.namesList = c.nameEntries) :
    n ∈ readOthers c.namesList ↔
      n ∈ c.members ∧ n ∉ c.operators ∧ n.toList.head? ≠ some '@' := by
  rw [readOthers_namesList hentries, List.mem_filter, mem_plainMembers,
    Option.isNone_iff_eq_none, operator?_eq_none_iff, and_assoc]

/-- The list is read as it was meant exactly if no plain member has the sign. -/
theorem listedAs_read_iff (hentries : entries c.namesList = c.nameEntries) :
    c.ListedAs (readOperators c.namesList) (readOthers c.namesList) ↔
      ∀ n, n ∈ c.members → n ∉ c.operators → n.toList.head? ≠ some '@' := by
  constructor
  · intro hread n hm ho
    exact ((mem_readOthers hentries).mp ((hread.mem_others n).mpr ⟨hm, ho⟩)).2.2
  · intro hplain
    have hunsigned : ∀ entry ∈ c.plainMembers, operator? entry = none := by
      intro entry hmem
      obtain ⟨hm, ho⟩ := mem_plainMembers.mp hmem
      exact operator?_eq_none_iff.mpr (hplain entry hm ho)
    have hnone : c.plainMembers.filterMap operator? = [] :=
      List.filterMap_eq_nil_iff.mpr hunsigned
    have hall : c.plainMembers.filter (fun entry => (operator? entry).isNone) = c.plainMembers :=
      List.filter_eq_self.mpr fun entry hmem => Option.isNone_iff_eq_none.mpr (hunsigned entry hmem)
    rw [readOperators_namesList hentries, readOthers_namesList hentries, hnone, hall,
      List.append_nil]
    exact listedAs_entries c

end Read

end Channel

namespace Directory

variable {d : Directory} {key n : String} {c : Channel}

/-- Whoever is on a channel goes by a nickname that is one word. -/
theorem Sound.isWord_of_mem (hd : d.Sound) (hc : d.channel? key = some c) (hm : n ∈ c.members) :
    Words.IsWord n.toList := by
  obtain ⟨id, hid, -⟩ := (hd.channels key c hc).users n hm
  exact Names.isWord_of_isNickname (hd.agree.valid n id ((hd.agree.holder_iff n id).mpr hid))

/-- The entries of the list of names are found again on every channel. -/
theorem Sound.entries_namesList (hd : d.Sound) (hc : d.channel? key = some c) :
    Channel.entries c.namesList = c.nameEntries := by
  have hsound : c.SoundIn d key := hd.channels key c hc
  apply Channel.entries_namesList
  · obtain ⟨n, hm⟩ := hsound.inhabited
    intro hnil
    obtain ⟨hops, hothers⟩ := List.append_eq_nil_iff.mp hnil
    by_cases ho : n ∈ c.operators
    · rw [List.map_eq_nil_iff] at hops
      exact List.not_mem_nil (hops ▸ Std.ExtTreeSet.mem_toList.mpr ho)
    · have hmem : n ∈ c.plainMembers := Channel.mem_plainMembers.mpr ⟨hm, ho⟩
      rw [Channel.plainMembers, hothers] at hmem
      cases hmem
  · intro entry hentry
    rw [Channel.nameEntries_eq, List.mem_append] at hentry
    rcases hentry with hop | hother
    · obtain ⟨n, hn, rfl⟩ := List.mem_map.mp hop
      have hm := hsound.operators_sub n (Std.ExtTreeSet.mem_toList.mp hn)
      rw [String.toList_append, List.mem_append, not_or]
      exact ⟨by decide, (hd.isWord_of_mem hc hm).no_space⟩
    · exact (hd.isWord_of_mem hc (Channel.mem_plainMembers.mp hother).1).no_space

end Directory

namespace Relay

open Channel

/-- How a list of names is read, in every state that a run reaches. It gives back the operators
and the other members, each of them once, exactly if no plain member's nickname begins with the
sign of an operator. Whose does is read as an operator under the rest of the nickname. -/
theorem names_read_back (site : Site) {events : List Event} (fresh : FreshHandles events)
    {key : String} {c : Channel} (hc : (run site .empty events).channel? key = some c) :
    (∀ n, n ∈ readOperators c.namesList ↔
      n ∈ c.operators ∨ "@" ++ n ∈ c.members ∧ "@" ++ n ∉ c.operators) ∧
    (∀ n, n ∈ readOthers c.namesList ↔
      n ∈ c.members ∧ n ∉ c.operators ∧ n.toList.head? ≠ some '@') ∧
    (c.ListedAs (readOperators c.namesList) (readOthers c.namesList) ↔
      ∀ n, n ∈ c.members → n ∉ c.operators → n.toList.head? ≠ some '@') := by
  have hentries : entries c.namesList = c.nameEntries := (run_sound site fresh).entries_namesList hc
  exact ⟨fun _ => mem_readOperators hentries, fun _ => mem_readOthers hentries,
    listedAs_read_iff hentries⟩

/-- At the gathering the list shows zoe as the operator, and ann and bob as the others. -/
theorem names_read_back_gathering :
    FreshHandles gathering ∧ ∃ c, (run .sample .empty gathering).channel? "#lean" = some c ∧
      c.namesList = "@zoe ann bob" ∧ c.ListedAs ["zoe"] ["ann", "bob"] := by
  have fresh : FreshHandles gathering := by decide
  have hchannel : ((run .sample .empty gathering).channel? "#lean").map
      (fun c => (c.namesList, c.plainMembers)) = some ("@zoe ann bob", ["ann", "bob"]) := by
    decide +kernel
  obtain ⟨c, hc, hlisted⟩ := Option.map_eq_some_iff.mp hchannel
  obtain ⟨hlist, hplain⟩ := Prod.mk.inj hlisted
  have hread : readOperators "@zoe ann bob" = ["zoe"] ∧
      readOthers "@zoe ann bob" = ["ann", "bob"] := by
    decide +kernel
  have hunsigned : ∀ n, n ∈ c.members → n ∉ c.operators → n.toList.head? ≠ some '@' := by
    intro n hm ho
    have hmem : n ∈ c.plainMembers := mem_plainMembers.mpr ⟨hm, ho⟩
    rw [hplain] at hmem
    have hall : ∀ n ∈ ["ann", "bob"], n.toList.head? ≠ some '@' := by decide
    exact hall n hmem
  have hback := (names_read_back .sample fresh hc).2.2.mpr hunsigned
  rw [hlist, hread.1, hread.2] at hback
  exact ⟨fresh, c, hc, hlist, hback⟩

/-- Zoe, who creates a channel, and somebody who comes in under a nickname that begins with
the operators' sign. -/
def impostor : List Event :=
  [.connect 1, .line 1 "PASS secret", .line 1 "NICK zoe", .line 1 "USER zoe host",
    .line 1 "JOIN #lean", .connect 2, .line 2 "PASS secret", .line 2 "NICK @ann",
    .line 2 "USER ann host", .line 2 "JOIN #lean"]

/-- The plain member is read as an operator under a nickname that nobody holds, and nobody
is read as a plain member. -/
theorem names_read_back_impostor :
    let d := run .sample .empty impostor
    FreshHandles impostor ∧ d.holder? "ann" = none ∧ ∃ c, d.channel? "#lean" = some c ∧
      c.operators.toList = ["zoe"] ∧ c.plainMembers = ["@ann"] ∧
      readOperators c.namesList = ["zoe", "ann"] ∧ readOthers c.namesList = [] ∧
      ¬c.ListedAs (readOperators c.namesList) (readOthers c.namesList) := by
  intro d
  have fresh : FreshHandles impostor := by decide
  have hnobody : d.holder? "ann" = none := by decide +kernel
  have hchannel : (d.channel? "#lean").map (fun c => (c.operators.toList, c.plainMembers,
      readOperators c.namesList, readOthers c.namesList)) =
        some (["zoe"], ["@ann"], ["zoe", "ann"], []) := by
    decide +kernel
  obtain ⟨c, hc, hlisted⟩ := Option.map_eq_some_iff.mp hchannel
  simp only [Prod.mk.injEq] at hlisted
  obtain ⟨hoperators, hplain, hread, hothers⟩ := hlisted
  refine ⟨fresh, hnobody, c, hc, hoperators, hplain, hread, hothers, fun hlisted => ?_⟩
  have hmem : "@ann" ∈ c.plainMembers := hplain ▸ List.mem_singleton_self _
  have hback := (hlisted.mem_others "@ann").mpr (mem_plainMembers.mp hmem)
  rw [hothers] at hback
  cases hback

end Relay

end RelayChat
