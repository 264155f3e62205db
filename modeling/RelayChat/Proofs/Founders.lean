import RelayChat.Proofs.Visits

/-!
# Operators are founders

A channel keeps its operators by their nicknames, but the sign belongs to a connection: to
the one that has created the channel and has been on it ever since (`Founded`). What
happened in between, new nicknames of its own and lines of others included, makes no
difference, and whoever leaves and comes back is a plain member.

An event leaves an operator behind only in one of two ways (`isOperator_step`): it was one
before and is still on the channel, or it has just created it. Being a founder is carried on
in the same two ways when the run goes on (`founded_concat`), so the two agree after every
run. A channel has one founder, since nobody can create it while the founder is on it.
-/

namespace RelayChat

open Directory

/-! ## Places and signs -/

/-- Somebody of this nickname, or of none, is on this channel, if there is one. -/
def Attends (nick : Option String) (channel : Option Channel) : Prop :=
  ∃ n c, nick = some n ∧ channel = some c ∧ n ∈ c.members

/-- Somebody of this nickname, or of none, is an operator of this channel, if there is one. -/
def Leads (nick : Option String) (channel : Option Channel) : Prop :=
  ∃ n c, nick = some n ∧ channel = some c ∧ n ∈ c.operators

namespace Directory

/-- The connection is on the channel. -/
def IsMember (d : Directory) (id : Handle) (name : String) : Prop :=
  Attends (d.nickname? id) (d.channel? name)

/-- The connection is an operator of the channel. -/
def IsOperator (d : Directory) (id : Handle) (name : String) : Prop :=
  Leads (d.nickname? id) (d.channel? name)

variable {d : Directory} {id : Handle} {name : String}

/-- Operators are on their channel. -/
theorem IsOperator.isMember (h : d.IsOperator id name) (hd : d.Sound) : d.IsMember id name := by
  obtain ⟨n, c, hn, hc, ho⟩ := h
  exact ⟨n, c, hn, hc, (hd.channels name c hc).operators_sub n ho⟩

/-- All who are on a channel receive what is sent to it. -/
theorem mem_recipients_iff_isMember {k : Handle} {c : Channel} (agree : d.NicknamesAgree)
    (hc : d.channel? name = some c) : k ∈ d.recipients c none ↔ d.IsMember k name := by
  rw [mem_recipients agree]
  constructor
  · rintro ⟨-, m, hm, hk⟩
    exact ⟨m, c, hk, hc, hm⟩
  · rintro ⟨m, c', hk, hc', hm⟩
    cases hc.symm.trans hc'
    exact ⟨Option.some_ne_none k, m, hm, hk⟩

/-- Whoever is on a channel is a user. -/
theorem IsMember.exists_user (h : d.IsMember id name) (hd : d.Sound) :
    ∃ s n, d.session? id = some s ∧ s.loggedIn = true ∧ s.nickname = some n := by
  obtain ⟨n, c, hn, hc, hm⟩ := h
  obtain ⟨k, hk, hin⟩ := (hd.channels name c hc).users n hm
  obtain rfl := hd.agree.eq_of_nickname? hk hn
  obtain ⟨s, hs, hsin⟩ := isLoggedIn_iff.mp hin
  exact ⟨s, n, hs, hsin, (nickname?_of_session? hs).symm.trans hn⟩

theorem IsMember.channel?_ne_none (h : d.IsMember id name) : d.channel? name ≠ none := by
  obtain ⟨n, c, -, hc, -⟩ := h
  rw [hc]
  exact Option.some_ne_none c

end Directory

/-! ## A line of the connection -/

section Lines

variable {d : Directory} {id k : Handle} {text name n new : String} {nick : Option String}
  {channel after : Option Channel} {c : Channel}

theorem attends_some_iff : Attends (some n) (some c) ↔ n ∈ c.members :=
  ⟨fun ⟨_, _, hn, hc, hm⟩ => by cases hn; cases hc; exact hm, fun hm => ⟨n, c, rfl, rfl, hm⟩⟩

theorem leads_some_iff : Leads (some n) (some c) ↔ n ∈ c.operators :=
  ⟨fun ⟨_, _, hn, hc, ho⟩ => by cases hn; cases hc; exact ho, fun ho => ⟨n, c, rfl, rfl, ho⟩⟩

theorem not_attends_none : ¬Attends nick none :=
  fun ⟨_, _, _, hc, _⟩ => nomatch hc

/-- Whether a user is on a channel is seen by what it is addressed as. -/
theorem Directory.isMember_address_iff (hd : d.SessionsAdmissible) (hin : d.isLoggedIn id = true)
    (hc : d.channel? name = some c) :
    c.isMember (d.address id) = true ↔ d.IsMember id name := by
  rw [IsMember, hd.nickname?_eq_address hin, hc, attends_some_iff, Channel.isMember_iff]

instance decidableAttends :
    (nick : Option String) → (channel : Option Channel) → Decidable (Attends nick channel)
  | some n, some c =>
    decidable_of_iff (c.isMember n = true) (Channel.isMember_iff.trans attends_some_iff.symm)
  | some _, none => isFalse fun ⟨_, _, _, hc, _⟩ => nomatch hc
  | none, _ => isFalse fun ⟨_, _, hn, _, _⟩ => nomatch hn

instance (d : Directory) (id : Handle) (name : String) : Decidable (d.IsMember id name) :=
  decidableAttends (d.nickname? id) (d.channel? name)

theorem not_leads_none : ¬Leads nick none :=
  fun ⟨_, _, _, hc, _⟩ => nomatch hc

theorem not_nobody_attends : ¬Attends none channel :=
  fun ⟨_, _, hn, _, _⟩ => nomatch hn

theorem not_nobody_leads : ¬Leads none channel :=
  fun ⟨_, _, hn, _, _⟩ => nomatch hn

/-- Whoever takes a nickname that is not in the set is in it if the old nickname was. -/
theorem Channel.mem_renameIn_new {set : NicknameSet} {old : String} (h : new ∉ set) :
    new ∈ renameIn set old new ↔ old ∈ set := by
  by_cases hold : old ∈ set
  · exact iff_of_true ((mem_renameIn hold).mpr (Or.inl rfl)) hold
  · rw [renameIn_of_not_mem hold]
    exact iff_of_false h hold

/-- An operator that keeps its sign while nothing is created. -/
theorem kept_iff {before now on created : Prop} (hsame : now ↔ before) (hon : before → on)
    (hcreated : on → ¬created) : now ↔ on ∧ (before ∨ created) := by
  rw [hsame]
  exact ⟨fun h => ⟨hon h, Or.inl h⟩, fun h => h.2.resolve_right (hcreated h.1)⟩

/-- After a line of its own, an operator is on the channel, and was one before or has created
the channel. -/
theorem Touch.leads_iff (h : Touch d id text name nick after) (hd : d.Sound) :
    Leads nick after ↔ Attends nick after ∧
      (d.IsOperator id name ∨ Request.Joins text name ∧ d.channel? name = none) := by
  have hsub : ∀ {c m}, d.channel? name = some c → m ∈ c.operators → m ∈ c.members :=
    fun hc => (hd.channels name _ hc).operators_sub _
  cases h with
  | kept =>
    refine kept_iff Iff.rfl (fun ho => IsOperator.isMember ho hd) ?_
    rintro hm ⟨-, hnone⟩
    exact IsMember.channel?_ne_none hm hnone
  | @named new hn free =>
    -- nobody of the new nickname is on any channel
    cases hc : d.channel? name with
    | none => exact iff_of_false not_leads_none fun h => not_attends_none h.1
    | some c =>
      rw [leads_some_iff, attends_some_iff]
      have hout : new ∉ c.members := hd.not_mem_of_free free hc
      exact iff_of_false (fun ho => hout (hsub hc ho)) fun h => hout h.1
  | @renamed old new hn free =>
    cases hc : d.channel? name with
    | none => exact iff_of_false not_leads_none fun h => not_attends_none h.1
    | some c =>
      have hout : new ∉ c.members := hd.not_mem_of_free free hc
      rw [IsOperator, hn, hc, Option.map_some, leads_some_iff, leads_some_iff, attends_some_iff,
        Channel.rename, Channel.mem_renameIn_new hout,
        Channel.mem_renameIn_new fun ho => hout (hsub hc ho)]
      exact kept_iff Iff.rfl (hsub hc) fun _ h => Option.some_ne_none _ h.2
  | @joined n c hsaid hn hc =>
    rw [IsOperator, hn, hc, leads_some_iff, leads_some_iff, attends_some_iff]
    have hin : n ∈ (c.add n).members := Channel.mem_members_add.mpr (Or.inl rfl)
    exact kept_iff Iff.rfl (fun _ => hin) fun _ h => Option.some_ne_none _ h.2
  | @created n hsaid hn hc =>
    have hm : n ∈ (Channel.create name n).members := Channel.mem_members_create.mpr rfl
    rw [leads_some_iff, attends_some_iff]
    exact iff_of_true hm ⟨hm, Or.inr ⟨hsaid, hc⟩⟩
  | @left n c hsaid hn hc hm =>
    cases hleft : leave? n c with
    | none => exact iff_of_false not_leads_none fun h => not_attends_none h.1
    | some left =>
      obtain ⟨rfl, -⟩ := leave?_eq_some_iff.mp hleft
      rw [leads_some_iff, attends_some_iff]
      exact iff_of_false (fun ho => (Channel.mem_operators_remove.mp ho).1 rfl)
        fun h => (Channel.mem_members_remove.mp h.1).1 rfl
  | @topicSet n topic c hsaid hn hc hm =>
    rw [IsOperator, hn, hc, leads_some_iff, leads_some_iff, attends_some_iff]
    exact kept_iff Iff.rfl (hsub hc) fun _ h => Option.some_ne_none _ h.2

/-- Whoever keeps place and sign on a channel that stays, and gets none on a channel that
comes, is an operator if it was one and is still on the channel. -/
theorem leads_iff_of_keeps (hsub : ∀ c, after = some c → n ∈ c.operators → n ∈ c.members)
    (hkeeps : ∀ c, after = some c →
      (∃ c', channel = some c' ∧ (n ∈ c.operators ↔ n ∈ c'.operators)) ∨
        channel = none ∧ n ∉ c.operators) :
    Leads (some n) after ↔ Attends (some n) after ∧ Leads (some n) channel := by
  cases after with
  | none => exact iff_of_false not_leads_none fun h => not_attends_none h.1
  | some c =>
    rw [leads_some_iff, attends_some_iff]
    rcases hkeeps c rfl with ⟨c', rfl, hsame⟩ | ⟨rfl, hout⟩
    · rw [leads_some_iff, hsame]
      exact ⟨fun ho => ⟨hsub c rfl (hsame.mpr ho), ho⟩, And.right⟩
    · exact iff_of_false hout fun h => not_leads_none h.2

/-- A line of somebody else. -/
theorem Touch.leads_iff_of_other (h : Touch d k text name nick after)
    (hsub : ∀ c, after = some c → n ∈ c.operators → n ∈ c.members)
    (hold : d.nickname? k ≠ some n) (hnew : nick ≠ some n) :
    Leads (some n) after ↔ Attends (some n) after ∧ Leads (some n) (d.channel? name) := by
  refine leads_iff_of_keeps hsub fun c hafter => ?_
  cases hc : d.channel? name with
  | some c' => exact Or.inl ⟨c', rfl, (h.others hc hafter hold hnew).2⟩
  | none =>
    obtain ⟨-, m, hm, rfl⟩ := h.appeared hc hafter
    refine Or.inr ⟨rfl, fun ho => hold ?_⟩
    rw [hm, Channel.mem_operators_create.mp ho]

/-- Somebody else goes. -/
theorem leads_leftBy_iff
    (hsub : ∀ c, leftBy nick channel = some c → n ∈ c.operators → n ∈ c.members)
    (hne : nick ≠ some n) :
    Leads (some n) (leftBy nick channel) ↔
      Attends (some n) (leftBy nick channel) ∧ Leads (some n) channel := by
  refine leads_iff_of_keeps hsub fun c hafter => ?_
  cases nick with
  | none => exact Or.inl ⟨c, hafter, Iff.rfl⟩
  | some m =>
    obtain ⟨c', hc, hleft⟩ := Option.bind_eq_some_iff.mp hafter
    obtain ⟨rfl, -⟩ := leave?_eq_some_iff.mp hleft
    have hmn : m ≠ n := fun he => hne (congrArg some he)
    exact Or.inl ⟨c', hc, Channel.mem_operators_remove.trans (and_iff_right hmn)⟩

end Lines

/-! ## One event -/

namespace Relay

/-- With this event the connection creates the channel, which was not there. -/
def Creates (d : Directory) (event : Event) (id : Handle) (name : String) : Prop :=
  ∃ text, event = .line id text ∧ Request.Joins text name ∧ d.channel? name = none

variable {site : Site} {d : Directory} {past events : List Event} {event : Event}
  {id k : Handle} {text name : String}

theorem creates_line : Creates d (.line id text) id name ↔
    Request.Joins text name ∧ d.channel? name = none := by
  constructor
  · rintro ⟨_, ⟨⟩, h⟩
    exact h
  · exact fun h => ⟨text, rfl, h⟩

/-- After an event, an operator is on the channel, and was one before or has created the
channel with the event. -/
theorem isOperator_step (site : Site) (fresh : FreshHandles (past ++ [event])) (id : Handle)
    (name : String) :
    let d := run site .empty past
    let d' := (step site d event).1
    d'.IsOperator id name ↔
      d'.IsMember id name ∧ (d.IsOperator id name ∨ Creates d event id name) := by
  intro d d'
  have hd : d.Sound := run_sound site fresh.past_of_append
  have hd' : d'.Sound := by
    have h := run_sound site fresh
    rwa [run_concat] at h
  have hsub : ∀ {n} c, d'.channel? name = some c → n ∈ c.operators → n ∈ c.members :=
    fun c hc => (hd'.channels name c hc).operators_sub _
  -- without a nickname it has no place, hence no sign
  have hnobody : d'.nickname? id = none → (d'.IsOperator id name ↔
      d'.IsMember id name ∧ (d.IsOperator id name ∨ Creates d event id name)) := by
    intro hn
    rw [IsOperator, IsMember, hn]
    exact iff_of_false not_nobody_leads fun h => not_nobody_attends h.1
  cases event with
  | connect k =>
    have hn : d'.nickname? id = d.nickname? id := nickname?_openSession (session?_of_fresh fresh)
    have hc : d'.channel? name = d.channel? name := channel?_openSession
    rw [IsOperator, IsMember, hn, hc]
    exact kept_iff Iff.rfl (fun ho => IsOperator.isMember ho hd) fun _ ⟨_, he, _⟩ => nomatch he
  | line k text =>
    have htouch := receive_touch site hd.admissible k text name
    by_cases hk : k = id
    · subst hk
      rw [creates_line]
      exact htouch.leads_iff hd
    · have hsame : d'.nickname? id = d.nickname? id :=
        nickname?_congr (session?_of_changes_ne (receive_changes site d k text) hk)
      have hcreates : ¬Creates d (.line k text) id name :=
        fun ⟨_, he, _⟩ => hk (Event.line.inj he).1
      cases hn : d.nickname? id with
      | none => exact hnobody (hsame.trans hn)
      | some n =>
        have hold : d.nickname? k ≠ some n := fun h => hk (hd.agree.eq_of_nickname? h hn)
        have hnew : d'.nickname? k ≠ some n :=
          fun h => hk (hd'.agree.eq_of_nickname? h (hsame.trans hn))
        rw [or_iff_left hcreates, IsOperator, IsMember, IsOperator, hsame, hn]
        exact htouch.leads_iff_of_other hsub hold hnew
  | drop k =>
    have hclosed : d' = d.closeSession k := drop_directory d k
    have hnick : d'.nickname? id = if k = id then none else d.nickname? id := by
      rw [hclosed, nickname?_closeSession]
    by_cases hk : k = id
    · exact hnobody (hnick.trans (if_pos hk))
    · rw [if_neg hk] at hnick
      have hcreates : ¬Creates d (.drop k) id name := fun ⟨_, he, _⟩ => nomatch he
      cases hn : d.nickname? id with
      | none => exact hnobody (hnick.trans hn)
      | some n =>
        have hne : d.nickname? k ≠ some n := fun h => hk (hd.agree.eq_of_nickname? h hn)
        have hleft : d'.channel? name = leftBy (d.nickname? k) (d.channel? name) := by
          rw [hclosed, channel?_closeSession_eq_leftBy]
        rw [or_iff_left hcreates, IsOperator, IsMember, IsOperator, hnick, hn, hleft]
        exact leads_leftBy_iff (hleft ▸ hsub) hne

/-! ## Whole runs -/

/-- The connection has created the channel that is there now, and has been on it ever since. -/
def Founded (site : Site) (events : List Event) (id : Handle) (name : String) : Prop :=
  ∃ past text since, events = past ++ .line id text :: since ∧ Request.Joins text name ∧
    (run site .empty past).channel? name = none ∧
    ∀ between, between <+: since →
      (run site .empty (past ++ .line id text :: between)).IsMember id name

/-- After one more event, a founder is on the channel, and was a founder before or has created
the channel with the event. -/
theorem founded_concat : Founded site (past ++ [event]) id name ↔
    (run site .empty (past ++ [event])).IsMember id name ∧
      (Founded site past id name ∨ Creates (run site .empty past) event id name) := by
  constructor
  · rintro ⟨before, text, since, he, hsaid, hnone, hstays⟩
    have hnow := hstays since List.prefix_rfl
    rw [← he] at hnow
    refine ⟨hnow, ?_⟩
    rcases last_or_before he with ⟨rfl, rfl, hevent⟩ | ⟨between, rfl, rfl⟩
    · exact Or.inr ⟨text, hevent, hsaid, hnone⟩
    · exact Or.inl ⟨before, text, between, rfl, hsaid, hnone, fun part hpart =>
        hstays part (hpart.trans (List.prefix_append _ _))⟩
  · rintro ⟨hnow, ⟨before, text, since, rfl, hsaid, hnone, hstays⟩ | ⟨text, rfl, hsaid, hnone⟩⟩
    · refine ⟨before, text, since ++ [event], ?_, hsaid, hnone, fun part hpart => ?_⟩
      · rw [List.append_assoc, List.cons_append]
      · rcases List.prefix_concat_iff.mp hpart with rfl | hpart
        · rwa [List.append_assoc, List.cons_append] at hnow
        · exact hstays part hpart
    · refine ⟨past, text, [], rfl, hsaid, hnone, fun part hpart => ?_⟩
      rw [List.prefix_nil.mp hpart]
      exact hnow

/-- Operators are founders. -/
theorem isOperator_iff_founded (site : Site) (fresh : FreshHandles events) (id : Handle)
    (name : String) :
    (run site .empty events).IsOperator id name ↔ Founded site events id name := by
  induction events using List.reverseRecOn with
  | nil =>
    refine iff_of_false (fun ⟨_, _, hn, _⟩ => ?_) fun ⟨_, _, _, he, _⟩ => ?_
    · cases hn
    · exact List.append_ne_nil_of_right_ne_nil _ (List.cons_ne_nil _ _) he.symm
  | append_singleton past event ih =>
    rw [founded_concat, run_concat, ← ih fresh.past_of_append]
    exact isOperator_step site fresh id name

/-- Nobody creates a channel while its founder is on it. -/
theorem Founded.eq_of_later {first second : Handle} {before since later rest : List Event}
    {text text' : String} (he : .line first text :: since = later ++ .line second text' :: rest)
    (hstays : ∀ between, between <+: since →
      (run site .empty (before ++ .line first text :: between)).IsMember first name)
    (hnone : (run site .empty (before ++ later)).channel? name = none) : first = second := by
  cases later with
  | nil => exact (Event.line.inj (List.cons.inj he).1).1
  | cons event later =>
    obtain ⟨rfl, rfl⟩ := List.cons.inj he
    exact absurd hnone (hstays later (List.prefix_append _ _)).channel?_ne_none

/-- A channel has one founder. -/
theorem Founded.eq (h : Founded site events id name) (hk : Founded site events k name) :
    id = k := by
  obtain ⟨past, text, since, rfl, -, hnone, hstays⟩ := h
  obtain ⟨past', text', since', he, -, hnone', hstays'⟩ := hk
  rcases List.append_eq_append_iff.mp he with ⟨later, rfl, hrest⟩ | ⟨later, rfl, hrest⟩
  · exact Founded.eq_of_later hrest hstays hnone'
  · exact (Founded.eq_of_later hrest hstays' hnone).symm

/-- The operators of a channel are called as its founder is. -/
theorem operator_unique (site : Site) (fresh : FreshHandles events) {c : Channel} {n m : String}
    (hc : (run site .empty events).channel? name = some c) (hn : n ∈ c.operators)
    (hm : m ∈ c.operators) : n = m := by
  have hsound : c.SoundIn (run site .empty events) name :=
    (run_sound site fresh).channels name c hc
  obtain ⟨id, hid, -⟩ := hsound.users n (hsound.operators_sub n hn)
  obtain ⟨k, hk, -⟩ := hsound.users m (hsound.operators_sub m hm)
  have hfounded := (isOperator_iff_founded site fresh id name).mp ⟨n, c, hid, hc, hn⟩
  have hfounded' := (isOperator_iff_founded site fresh k name).mp ⟨m, c, hk, hc, hm⟩
  obtain rfl := hfounded.eq hfounded'
  exact Option.some.inj (hid.symm.trans hk)

/-- A channel comes with a line that asks to come in, as a new one with its sender. -/
theorem exists_line_of_appears {c : Channel} (site : Site)
    (fresh : FreshHandles (past ++ [event])) (hnone : (run site .empty past).channel? name = none)
    (hc : (step site (run site .empty past) event).1.channel? name = some c) :
    ∃ k text n, event = .line k text ∧ Request.Joins text name ∧ c = .create name n := by
  cases event with
  | connect k => cases hnone.symm.trans (channel?_openSession.symm.trans hc)
  | line k text =>
    have hd := (run_sound site fresh.past_of_append).admissible
    obtain ⟨hsaid, n, -, he⟩ := (receive_touch site hd k text name).appeared hnone hc
    exact ⟨k, text, n, rfl, hsaid, he⟩
  | drop k =>
    rw [step, drop_directory, channel?_closeSession_eq_leftBy, hnone] at hc
    cases hn : (run site .empty past).nickname? k with
    | none =>
      rw [hn] at hc
      cases hc
    | some n =>
      rw [hn] at hc
      cases hc

/-- So it has the topic and the operator that a new one has. -/
theorem create_of_appears {c : Channel} (site : Site) (fresh : FreshHandles (past ++ [event]))
    (hnone : (run site .empty past).channel? name = none)
    (hc : (step site (run site .empty past) event).1.channel? name = some c) :
    ∃ n, c = .create name n := by
  obtain ⟨-, -, n, -, -, he⟩ := exists_line_of_appears site fresh hnone hc
  exact ⟨n, he⟩

/-- Operators are founders. After every run, a connection is an operator of a channel exactly
if it has created the channel that is there and has been on it ever since, so no channel has
two operators. Whatever happens next, nobody becomes an operator but by creating a channel
that was not there, and a channel that comes has no topic and no operator but its creator. -/
theorem operators_are_founders (site : Site) {events : List Event} (fresh : FreshHandles events) :
    let d := run site .empty events
    (∀ id name, d.IsOperator id name ↔ Founded site events id name) ∧
      (∀ name c, d.channel? name = some c → ∀ n ∈ c.operators, ∀ m ∈ c.operators, n = m) ∧
      ∀ event, FreshHandles (events ++ [event]) →
        let d' := (step site d event).1
        (∀ id name, d'.IsOperator id name → ¬d.IsOperator id name → Creates d event id name) ∧
          ∀ name c, d.channel? name = none → d'.channel? name = some c →
            c.topic = "" ∧ ∃ id n, Creates d event id name ∧ d'.nickname? id = some n ∧
              ∀ m, m ∈ c.operators ↔ m = n := by
  intro d
  refine ⟨isOperator_iff_founded site fresh, fun name c hc n hn m hm =>
    operator_unique site fresh hc hn hm, fun event hnext => ?_⟩
  intro d'
  have hbecomes : ∀ id name, d'.IsOperator id name → ¬d.IsOperator id name →
      Creates d event id name := by
    intro id name hafter hbefore
    exact ((isOperator_step site hnext id name).mp hafter).2.resolve_left hbefore
  refine ⟨hbecomes, fun name c hnone hc => ?_⟩
  obtain ⟨n, rfl⟩ := create_of_appears site hnext hnone hc
  have hd' : d'.Sound := by
    have h := run_sound site hnext
    rwa [run_concat] at h
  have ho : n ∈ (Channel.create name n).operators := Channel.mem_operators_create.mpr rfl
  -- whoever goes by the nickname of the operator must have created the channel
  obtain ⟨id, hid, -⟩ := (hd'.channels name _ hc).users n ho
  have hout : ¬d.IsOperator id name := fun h =>
    IsMember.channel?_ne_none (h.isMember (run_sound site fresh)) hnone
  exact ⟨rfl, id, n, hbecomes id name ⟨n, _, hid, hc, ho⟩ hout, hid, fun m =>
    Channel.mem_operators_create.trans eq_comm⟩

/-- After the gathering zoe takes another nickname, leaves the channel she has created and
comes back to it. When all have left, ann creates it again, and zoe follows her. -/
def succession : List Event :=
  gathering ++
    [.line 1 "NICK Zed", .line 1 "PART #lean", .line 1 "JOIN #lean", .drop 2,
      .line 3 "TOPIC #lean :tea", .line 3 "PART #lean", .line 1 "PART #lean", .line 3 "JOIN #lean",
      .line 1 "JOIN #lean", .line 1 "MODE #lean +o Zed"]

/-- Ann is the founder now and nobody else is. -/
theorem operators_are_founders_succession :
    let d := run .sample .empty succession
    FreshHandles succession ∧ d.nickname? 3 = some "ann" ∧ d.nickname? 1 = some "Zed" ∧
      Founded .sample succession 3 "#lean" ∧ ¬Founded .sample succession 1 "#lean" ∧
      ∃ c, d.channel? "#lean" = some c ∧ "Zed" ∈ c.members ∧ ∀ n ∈ c.operators, n = "ann" := by
  intro d
  have fresh : FreshHandles succession := by decide
  have hann : d.nickname? 3 = some "ann" := by decide +kernel
  have hzed : d.nickname? 1 = some "Zed" := by decide +kernel
  have hchannel : (d.channel? "#lean").map (fun c => (c.isMember "Zed", c.isOperator "ann")) =
      some (true, true) := by
    decide +kernel
  obtain ⟨c, hc, hflags⟩ := Option.map_eq_some_iff.mp hchannel
  obtain ⟨hmember, hoperator⟩ := Prod.mk.inj hflags
  have ho : "ann" ∈ c.operators := Std.ExtTreeSet.contains_iff_mem.mp hoperator
  obtain ⟨hfounders, hone, -⟩ := operators_are_founders .sample fresh
  have honly : ∀ n ∈ c.operators, n = "ann" := fun n hn => hone "#lean" c hc n hn "ann" ho
  refine ⟨fresh, hann, hzed, (hfounders 3 "#lean").mp ⟨"ann", c, hann, hc, ho⟩, fun h => ?_, c, hc,
    Channel.isMember_iff.mp hmember, honly⟩
  obtain ⟨n, c', hn, hc', hsign⟩ := (hfounders 1 "#lean").mpr h
  cases hc.symm.trans hc'
  cases hzed.symm.trans hn
  exact absurd (honly "Zed" hsign) (by decide)

end Relay

end RelayChat
