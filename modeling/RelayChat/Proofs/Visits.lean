import RelayChat.Proofs.ChannelReplicas
import RelayChat.Proofs.LineFrame

/-!
# Visits

A connection comes, says what it likes, and goes. Nothing of it stays, except the topics
that it has set on channels of others: whatever it did on a channel, its going undoes.

The reason is that every line may be undone by going at once. What is left of a channel
when the visitor goes (`leftBy`) is the same before a line and after it, or differs in the
topic that the line set (`Touch.leftBy_eq`). This carries from the arrival, when the visitor
has no nickname to take off anything, through any number of lines (`leftBy_arrival`).
-/

namespace RelayChat

open Directory

/-! ## Going undoes coming -/

section Leaving

variable {d : Directory} {id : Handle} {n m old new topic name : String} {c c' : Channel}

namespace Channel

theorem remove_add : (c.add n).remove n = c.remove n := by
  have hmembers : (c.members.insert n).erase n = c.members.erase n := by
    refine Std.ExtTreeSet.ext_mem fun m => ?_
    simp only [Std.ExtTreeSet.mem_erase, Std.ExtTreeSet.mem_insert, Ne,
      Std.LawfulEqCmp.compare_eq_iff_eq]
    exact and_congr_right fun hne => or_iff_right hne
  rw [add, remove, remove, hmembers]

/-- The new nickname leaves what the old one would have left. -/
theorem erase_renameIn {set : NicknameSet} (h : new ∉ set) :
    (renameIn set old new).erase new = set.erase old := by
  refine Std.ExtTreeSet.ext_mem fun m => ?_
  rw [Std.ExtTreeSet.mem_erase, Std.ExtTreeSet.mem_erase, Ne, Ne,
    Std.LawfulEqCmp.compare_eq_iff_eq, Std.LawfulEqCmp.compare_eq_iff_eq]
  have hnew : m ∈ set → new ≠ m := fun hm he => h (he ▸ hm)
  by_cases hold : old ∈ set
  · rw [mem_renameIn hold]
    constructor
    · rintro ⟨hne, he | hm⟩
      · exact absurd he hne
      · exact hm
    · rintro ⟨hne, hm⟩
      exact ⟨hnew hm, Or.inr ⟨hne, hm⟩⟩
  · rw [renameIn_of_not_mem hold]
    exact ⟨fun ⟨_, hm⟩ => ⟨fun he => hold (he ▸ hm), hm⟩, fun ⟨_, hm⟩ => ⟨hnew hm, hm⟩⟩

theorem remove_rename (h : new ∉ c.members) (ho : new ∉ c.operators) :
    (c.rename old new).remove new = c.remove old := by
  rw [rename, remove, remove, erase_renameIn h, erase_renameIn ho]

end Channel

namespace Directory

/-- What is left of a channel depends on the channel without the nickname. -/
theorem leave?_congr (h : c.remove n = c'.remove m) : leave? n c = leave? m c' := by
  rw [leave?, h, leave?]

/-- Whoever has left may leave again. -/
theorem leave?_idem : (leave? n c).bind (leave? n) = leave? n c := by
  cases hleft : leave? n c with
  | none => rfl
  | some left =>
    obtain ⟨rfl, hsome⟩ := leave?_eq_some_iff.mp hleft
    refine leave?_eq_some_iff.mpr ⟨(Channel.remove_of_not_mem ?_ ?_).symm, hsome⟩
    · exact fun hm => (Channel.mem_members_remove.mp hm).1 rfl
    · exact fun hm => (Channel.mem_operators_remove.mp hm).1 rfl

/-- The topic stays on what is left. -/
theorem leave?_topic :
    leave? n { c with topic := topic } = (leave? n c).map ({ · with topic := topic }) := by
  have hempty : (Channel.remove { c with topic := topic } n).isEmpty = (c.remove n).isEmpty := rfl
  unfold leave?
  dsimp only
  rw [hempty]
  split
  · rfl
  · rfl

/-- Nothing is left of a channel when its creator leaves. -/
theorem leave?_create : leave? n (.create name n) = none :=
  leave?_eq_none_iff.mpr fun _ hm => (Channel.mem_members_create.mp hm).symm

/-- What is left of a channel when somebody of this nickname goes, or of none. -/
def leftBy (nick : Option String) (channel : Option Channel) : Option Channel :=
  match nick with
  | some n => channel.bind (leave? n)
  | none => channel

/-- A connection that goes is somebody of its nickname, or of none. -/
theorem channel?_closeSession_eq_leftBy :
    (d.closeSession id).channel? name = leftBy (d.nickname? id) (d.channel? name) := by
  cases hs : d.session? id with
  | none =>
    have hn : d.nickname? id = none := by rw [nickname?, hs, Option.bind_none]
    rw [closeSession, hs, hn, leftBy]
  | some s =>
    rw [channel?_closeSession hs, nickname?_of_session? hs]
    cases s.nickname <;> rfl

end Directory

end Leaving

/-! ## A line, and going -/

section Lines

variable {d : Directory} {id : Handle} {text name n : String} {nick : Option String}
  {after : Option Channel} {c : Channel}

/-- The visitor leaves of the channel what it would have left before the line, with the
topic that the line set. -/
theorem Touch.leftBy_eq (h : Touch d id text name nick after) (hd : d.Sound) :
    leftBy nick after = leftBy (d.nickname? id) (d.channel? name) ∨
      ∃ topic c, Request.SetsTopic text name topic ∧ d.Sees id name c ∧
        leftBy nick after =
          (leftBy (d.nickname? id) (d.channel? name)).map ({ · with topic := topic }) := by
  cases h with
  | kept => exact Or.inl rfl
  | @named new hn free =>
    rw [hn]
    cases hc : d.channel? name with
    | none => exact Or.inl rfl
    | some c =>
      exact Or.inl ((hd.channels name c hc).leave?_of_not_mem (hd.not_mem_of_free free hc))
  | @renamed old new hn free =>
    rw [hn]
    cases hc : d.channel? name with
    | none => exact Or.inl rfl
    | some c =>
      have hm := hd.not_mem_of_free free hc
      have ho : new ∉ c.operators := fun ho => hm ((hd.channels name c hc).operators_sub new ho)
      exact Or.inl (leave?_congr (Channel.remove_rename hm ho))
  | joined _ hn hc =>
    rw [hn, hc]
    exact Or.inl (leave?_congr Channel.remove_add)
  | created _ hn hc =>
    rw [hn, hc]
    exact Or.inl leave?_create
  | left _ hn hc =>
    rw [hn, hc]
    exact Or.inl leave?_idem
  | @topicSet n topic c hsaid hn hc hm =>
    refine Or.inr ⟨topic, c, hsaid, ⟨hc, n, hn, hm⟩, ?_⟩
    rw [hn, hc]
    exact leave?_topic

/-- Nobody is on a channel without having asked to come in. -/
theorem Touch.sees (h : Touch d id text name nick after) (hd : d.Sound) (hafter : after = some c)
    (hnick : nick = some n) (hm : n ∈ c.members) :
    Request.Joins text name ∨ ∃ c, d.Sees id name c := by
  cases h with
  | kept => exact Or.inr ⟨c, hafter, n, hnick, hm⟩
  | named _ free =>
    cases hnick
    exact absurd hm (hd.not_mem_of_free free hafter)
  | @renamed old _ hn free =>
    cases hnick
    obtain ⟨before, hbefore, rfl⟩ := Option.map_eq_some_iff.mp hafter
    -- the new nickname stands where the old one stood
    by_cases hold : old ∈ before.members
    · exact Or.inr ⟨before, hbefore, old, hn, hold⟩
    · have hkept : (before.rename old n).members = before.members :=
        Channel.renameIn_of_not_mem hold
      exact absurd (hkept ▸ hm) (hd.not_mem_of_free free hbefore)
  | joined hsaid => exact Or.inl hsaid
  | created hsaid => exact Or.inl hsaid
  | left =>
    cases hnick
    exact absurd hm (Channel.not_mem_of_leave hafter)
  | topicSet _ hn hc hm' => exact Or.inr ⟨_, hc, _, hn, hm'⟩

end Lines

/-! ## Any number of lines -/

namespace Relay

/-- A connection comes and says these lines. -/
def arrival (id : Handle) (lines : List String) : List Event :=
  .connect id :: lines.map (.line id)

/-- It goes after that. -/
def visit (id : Handle) (lines : List String) : List Event :=
  arrival id lines ++ [.drop id]

/-- While it was on the channel, the visitor gave it this topic. -/
def SetsTopicDuring (site : Site) (d : Directory) (id : Handle) (lines : List String)
    (name topic : String) : Prop :=
  ∃ past text rest, lines = past ++ text :: rest ∧ Request.SetsTopic text name topic ∧
    (∃ join ∈ past, Request.Joins join name) ∧ ∃ c, (run site d (arrival id past)).Sees id name c

section Visits

variable {site : Site} {events : List Event} {d : Directory} {id k : Handle}
  {lines : List String} {text name topic : String} {c : Channel}

theorem SetsTopicDuring.concat (h : SetsTopicDuring site d id lines name topic) :
    SetsTopicDuring site d id (lines ++ [text]) name topic := by
  obtain ⟨past, line, rest, rfl, hsaid, hrest⟩ := h
  exact ⟨past, line, rest ++ [text], by rw [List.append_assoc, List.cons_append], hsaid, hrest⟩

theorem run_arrival_nil : run site d (arrival id []) = d.openSession id := rfl

theorem run_arrival_concat :
    run site d (arrival id (lines ++ [text])) =
      (receive site (run site d (arrival id lines)) id text).1 := by
  rw [arrival, List.map_append, ← List.cons_append]
  exact run_concat site d (arrival id lines) (.line id text)

/-- A visitor opens one handle. -/
theorem opened_arrival : Event.opened (arrival id lines) = [id] := by
  have hlines : (lines.map (Event.line id)).filterMap Event.opened? = [] := by
    rw [List.filterMap_eq_nil_iff]
    intro event hmem
    obtain ⟨text, -, rfl⟩ := List.mem_map.mp hmem
    rfl
  rw [Event.opened, arrival, List.filterMap_cons, hlines, Event.opened?]

/-- Nobody else's session changes while the visitor is there. -/
theorem session?_arrival (hk : id ≠ k) :
    (run site d (arrival id lines)).session? k = d.session? k := by
  induction lines using List.reverseRecOn with
  | nil => rw [run_arrival_nil, session?_openSession, if_neg hk]
  | append_singleton lines text ih =>
    rw [run_arrival_concat]
    exact (session?_of_changes_ne (receive_changes site _ id text) hk).trans ih

/-- A visitor that has just come has no nickname. -/
theorem nickname?_arrival_nil : (run site d (arrival id [])).nickname? id = none := by
  rw [run_arrival_nil, nickname?, session?_openSession, if_pos rfl]
  rfl

section Fresh

variable (fresh : FreshHandles events) (hid : id ∉ Event.opened events)
include fresh hid

/-- The states of a visit are states of a run. -/
theorem sound_arrival (site : Site) (lines : List String) :
    (run site (run site .empty events) (arrival id lines)).Sound := by
  have hfresh : FreshHandles (events ++ arrival id lines) := by
    have hopened : Event.opened (events ++ arrival id lines) = (Event.opened events).concat id := by
      rw [Event.opened, List.filterMap_append, List.concat_eq_append, ← Event.opened,
        ← Event.opened, opened_arrival]
    rw [FreshHandles, hopened]
    exact List.Nodup.concat hid fresh
  rw [← run_append]
  exact run_sound site hfresh

/-- A visitor that is on a channel has asked to come in. -/
theorem joins_of_sees
    (hsees : (run site (run site .empty events) (arrival id lines)).Sees id name c) :
    ∃ text ∈ lines, Request.Joins text name := by
  induction lines using List.reverseRecOn generalizing c with
  | nil =>
    obtain ⟨n, hn, -⟩ := hsees.member
    rw [nickname?_arrival_nil] at hn
    cases hn
  | append_singleton lines text ih =>
    rw [run_arrival_concat] at hsees
    obtain ⟨n, hn, hm⟩ := hsees.member
    have hd := sound_arrival fresh hid site lines
    have htouch := receive_touch site hd.admissible id text name
    rcases htouch.sees hd hsees.channel hn hm with hsaid | ⟨c, hc⟩
    · exact ⟨text, List.mem_append_right _ (List.mem_singleton_self text), hsaid⟩
    · obtain ⟨join, hmem, hsaid⟩ := ih hc
      exact ⟨join, List.mem_append_left _ hmem, hsaid⟩

/-- If the visitor went now, each channel would be as it was before the visit, but for a
topic that the visitor has set. -/
theorem leftBy_arrival (site : Site) (lines : List String) (name : String) :
    let d := run site .empty events
    let d' := run site d (arrival id lines)
    leftBy (d'.nickname? id) (d'.channel? name) = d.channel? name ∨
      ∃ c topic, d.channel? name = some c ∧ SetsTopicDuring site d id lines name topic ∧
        leftBy (d'.nickname? id) (d'.channel? name) = some { c with topic := topic } := by
  intro d
  induction lines using List.reverseRecOn with
  | nil =>
    intro d'
    have hn : d'.nickname? id = none := nickname?_arrival_nil
    rw [hn]
    exact Or.inl channel?_openSession
  | append_singleton lines text ih =>
    intro d'
    have hd := sound_arrival fresh hid site lines
    have htouch := receive_touch site hd.admissible id text name
    rw [← run_arrival_concat] at htouch
    rcases htouch.leftBy_eq hd with he | ⟨topic, c, hsaid, hsees, he⟩
    · rcases ih with hsame | ⟨c, topic, hc, hset, hleft⟩
      · exact Or.inl (he.trans hsame)
      · exact Or.inr ⟨c, topic, hc, hset.concat, he.trans hleft⟩
    · have hset : SetsTopicDuring site d id (lines ++ [text]) name topic :=
        ⟨lines, text, [], rfl, hsaid, joins_of_sees fresh hid hsees, c, hsees⟩
      rcases ih with hsame | ⟨c, _, hc, -, hleft⟩
      · cases hc : d.channel? name with
        | none =>
          rw [hsame, hc] at he
          exact Or.inl he
        | some c =>
          rw [hsame, hc] at he
          exact Or.inr ⟨c, topic, rfl, hset, he⟩
      · rw [hleft] at he
        exact Or.inr ⟨c, topic, hc, hset, he⟩

end Fresh

/-- A visitor leaves no trace. Whatever a connection that was never there before says
between its coming and its going, the sessions and the holders of nicknames are the same
afterwards, and so is every channel, its members and operators included, unless the visitor
gave it another topic while it was on it. -/
theorem visit_leaves_no_trace (site : Site) (fresh : FreshHandles events)
    (hid : id ∉ Event.opened events) (lines : List String) :
    let d := run site .empty events
    let d' := run site d (visit id lines)
    d'.sessions = d.sessions ∧ d'.holders = d.holders ∧
      ∀ name, d'.channel? name = d.channel? name ∨
        ∃ c topic, d.channel? name = some c ∧ SetsTopicDuring site d id lines name topic ∧
          d'.channel? name = some { c with topic := topic } := by
  intro d d'
  have hd : d.Sound := run_sound site fresh
  have hclosed : d' = (run site d (arrival id lines)).closeSession id := by
    rw [← drop_directory]
    exact run_concat site d (arrival id lines) (.drop id)
  have hsessions : ∀ k, d'.session? k = d.session? k := by
    intro k
    rw [hclosed, session?_closeSession]
    by_cases hk : id = k
    · subst hk
      rw [if_pos rfl]
      -- only handles that were opened have sessions
      exact (Option.eq_none_iff_forall_ne_some.mpr fun s hs =>
        hid (mem_opened_of_session? fresh hs)).symm
    · rw [if_neg hk, session?_arrival hk]
  have hagree : d'.NicknamesAgree :=
    hclosed ▸ (sound_arrival fresh hid site lines).agree.closeSession
  refine ⟨Std.ExtTreeMap.ext_getElem? hsessions, Std.ExtTreeMap.ext_getElem? fun n => ?_, ?_⟩
  · exact Option.ext fun k => hd.agree.holder?_of_session?_eq hagree (hsessions k)
  · intro name
    rw [hclosed, channel?_closeSession_eq_leftBy]
    exact leftBy_arrival fresh hid site lines name

/-- What somebody says who visits the meeting: the topic, two nicknames, and a channel of
its own. -/
def smallTalk : List String :=
  ["PASS secret", "NICK zed", "USER zed host", "JOIN #lean", "TOPIC #lean :tea", "NICK amy",
    "JOIN #own", "PART #lean", "JOIN #lean", "QUIT"]

/-- When the visitor is gone the meeting goes on under another topic, and the two nicknames
and the channel are free again. -/
theorem visit_leaves_no_trace_meeting :
    let d := run .sample .empty meeting
    let during := run .sample d (arrival 3 smallTalk)
    let d' := run .sample d (visit 3 smallTalk)
    FreshHandles meeting ∧ 3 ∉ Event.opened meeting ∧
      during.isOnChannel "#own" "amy" = true ∧ during.holder? "amy" = some 3 ∧
      d'.sessions = d.sessions ∧ d'.holders = d.holders ∧ d'.channel? "#own" = none ∧
      ∃ c, d.channel? "#lean" = some c ∧ c.topic = "" ∧
        d'.channel? "#lean" = some { c with topic := "tea" } := by
  intro d during d'
  have fresh : FreshHandles meeting := by decide
  have hid : 3 ∉ Event.opened meeting := by decide
  have hon : during.isOnChannel "#own" "amy" = true := by decide +kernel
  have hheld : during.holder? "amy" = some 3 := by decide +kernel
  have hnone : d.channel? "#own" = none := by decide +kernel
  have hbefore : (d.channel? "#lean").map Channel.topic = some "" := by decide +kernel
  have hafter : (d'.channel? "#lean").map Channel.topic = some "tea" := by decide +kernel
  obtain ⟨hsessions, hholders, hchannels⟩ := visit_leaves_no_trace .sample fresh hid smallTalk
  refine ⟨fresh, hid, hon, hheld, hsessions, hholders, ?_, ?_⟩
  · rcases hchannels "#own" with he | ⟨c, _, hc, -⟩
    · exact he.trans hnone
    · cases hnone.symm.trans hc
  · obtain ⟨c, hc, htopic⟩ := Option.map_eq_some_iff.mp hbefore
    refine ⟨c, hc, htopic, ?_⟩
    rcases hchannels "#lean" with he | ⟨c', topic, hc', -, he⟩
    · rw [show d'.channel? "#lean" = d.channel? "#lean" from he, hbefore] at hafter
      exact absurd hafter (by decide)
    · cases hc.symm.trans hc'
      have htea : topic = "tea" := by
        rw [show d'.channel? "#lean" = _ from he] at hafter
        exact Option.some.inj hafter
      exact htea ▸ he

end Visits

end Relay

end RelayChat
