import RelayChat.Proofs.LineFrame
import RelayChat.Proofs.MessageReading
import RelayChat.Proofs.NamesList

/-!
# Coming into a channel

The name of a channel is one word of a line, so whoever asks to come in is read as asking
for the channel as it is named (`Request.parse?_joinLine`). One who is there already gets
no answer. A newcomer is taken into the channel, or creates it (`Channel.Entered`). Then
everybody on it is told once, and the newcomer alone learns the topic and who is there
(`Relay.join_end_to_end`).
-/

namespace RelayChat

open Directory

/-! ## The line -/

namespace Names

variable {name : String} {c : Char}

/-- A channel's name begins with a sign, and all its characters may stand in it. -/
theorem of_isChannelName (h : isChannelName name = true) :
    isChannelTarget name = true ∧ ∀ c ∈ name.toList, isChannelChar c = true := by
  rw [isChannelName, Bool.and_eq_true, Bool.and_eq_true, Bool.and_eq_true] at h
  exact ⟨h.1.1.1, List.all_eq_true.mp h.2⟩

/-- A channel's name can be written as one word of a line. -/
theorem isWord_of_isChannelName (h : isChannelName name = true) : Words.IsWord name.toList := by
  obtain ⟨htarget, hchars⟩ := of_isChannelName h
  constructor
  · intro hnil
    rw [isChannelTarget, hnil] at htarget
    cases htarget
  · intro hspace
    exact absurd (hchars ' ' hspace) (by decide)

/-- It is not taken for free text. -/
theorem head?_ne_colon (h : isChannelName name = true) : name.toList.head? ≠ some ':' := by
  intro hcolon
  rcases isChannelTarget_iff.mp (of_isChannelName h).1 with hhead | hhead
  · exact absurd (hcolon.symm.trans hhead) (by decide)
  · exact absurd (hcolon.symm.trans hhead) (by decide)

/-- It does not end a line. -/
theorem isLineEnd_eq_false (h : isChannelName name = true) (hc : c ∈ name.toList) :
    Request.isLineEnd c = false := by
  have hchar : isChannelChar c = true := (of_isChannelName h).2 c hc
  rw [← Bool.not_eq_true]
  intro hend
  rw [Request.isLineEnd, Bool.or_eq_true, beq_iff_eq, beq_iff_eq] at hend
  rcases hend with rfl | rfl
  · exact absurd hchar (by decide)
  · exact absurd hchar (by decide)

end Names

namespace Request

variable {name : String}

/-- A request to come into a channel, as a client writes it. -/
def joinLine (name : String) : String :=
  "JOIN " ++ name

/-- A request to come into a channel is read with its name. -/
theorem parse?_joinLine (hname : Names.isChannelName name = true) :
    parse? (joinLine name) = some ⟨"JOIN", name⟩ := by
  have hline : joinLine name = "JOIN" ++ " " ++ name ++ "" :=
    String.toList_inj.mp (by simp [joinLine])
  have hcommand : Words.IsWord "JOIN".toList := ⟨by decide, by decide⟩
  have hword : Words.IsWord name.toList := Names.isWord_of_isChannelName hname
  rw [hline, parse?_parameter hcommand (by decide) hword (fun _ => Names.isLineEnd_eq_false hname),
    trimmed_empty, String.append_empty]

/-- It asks to come into that channel. -/
theorem joins_joinLine (hname : Names.isChannelName name = true) : Joins (joinLine name) name :=
  ⟨name, gives_of_parse? (parse?_joinLine hname) (by decide),
    Words.firstParameter_word (Names.isWord_of_isChannelName hname) (Names.head?_ne_colon hname)⟩

end Request

/-! ## What becomes of the channel -/

/-- What a channel is after somebody of that nickname has come in, by what it was before. -/
structure Channel.Entered (name nickname : String) (before : Option Channel) (after : Channel) :
    Prop where
  /-- A channel that was there has one more member, who is no operator. -/
  joined : ∀ c, before = some c → after = { c with members := c.members.insert nickname }
  /-- A new channel has no topic, and nobody but its creator is on it, as its operator. -/
  created : before = none → after.name = name ∧ after.topic = "" ∧
    (∀ n, n ∈ after.members ↔ n = nickname) ∧ ∀ n, n ∈ after.operators ↔ n = nickname

/-- Whoever has come in is there. -/
theorem Channel.Entered.mem {name nickname : String} {before : Option Channel} {after : Channel}
    (h : Entered name nickname before after) : nickname ∈ after.members := by
  cases before with
  | none => exact ((h.created rfl).2.2.1 nickname).mpr rfl
  | some c =>
    rw [h.joined c rfl]
    exact mem_members_add.mpr (Or.inl rfl)

namespace ChannelCommands

variable {site : Site} {d : Directory} {id : Handle} {name tail : String} {c : Channel}

/-- Whoever names a channel as it can be named is judged by the channel alone. -/
theorem join_channel (hname : Names.isChannelName name = true)
    (htail : Words.firstParameter tail = name) :
    join site d id tail =
      match d.channel? name with
      | some c =>
        if c.isMember (d.address id) then .done d []
        else
          .done (d.updateChannel name fun _ => c.add (d.address id))
            (announceJoin site (d.updateChannel name fun _ => c.add (d.address id)) id
              (c.add (d.address id)) name)
      | none =>
        .done (d.putChannel (.create name (d.address id)))
          (announceJoin site (d.putChannel (.create name (d.address id))) id
            (.create name (d.address id)) name) := by
  have hword : Words.IsWord name.toList := Names.isWord_of_isChannelName hname
  have hvalid : ¬(!Names.isChannelName name) = true := by
    rw [hname]
    decide
  unfold join
  rw [htail]
  exact (if_neg hword.not_isEmpty).trans (if_neg hvalid)

end ChannelCommands

/-! ## What is sent -/

namespace Message

/-- The news of somebody who came into a channel, as it goes out. -/
theorem render_join (nickname username hostname : String) {name : String}
    (hname : Names.isChannelName name = true) :
    render ⟨some (.user nickname username hostname), .join name⟩ =
      ":" ++ nickname ++ "!" ++ username ++ "@" ++ hostname ++ " JOIN " ++ name ++ "\r\n" := by
  have hword : Body.needsColon name = false := Body.needsColon_eq_false_iff.mpr
    ⟨Names.isWord_of_isChannelName hname, Names.head?_ne_colon hname⟩
  have hbody : Body.render (.join name) = "JOIN" ++ (" " ++ name) := by
    rw [Body.render, Body.renderWords, hword, if_neg Bool.false_ne_true]
  apply String.toList_inj.mp
  simp [render, hbody, Origin.render, lineEnd]

end Message

namespace Relay

variable {site : Site} {d : Directory} {id : Handle} {s : Session} {name : String} {c : Channel}

/-- What the relay itself tells one connection, as it goes out. -/
def told (site : Site) (id : Handle) (text : String) : Outgoing String :=
  .send id (":" ++ site.name ++ " " ++ text ++ "\r\n")

/-- A numbered reply with two parameters or more, as it goes out. -/
theorem map_render_reply (site : Site) (id : Handle) (number : Numeric) (first second : String)
    (rest : List String) :
    (site.reply id (Reply.numbered number (first :: second :: rest))).map Message.render =
      told site id (number.text ++ Body.renderFreeText (first :: second :: rest)) :=
  rfl

theorem map_render_topicReply (site : Site) (id : Handle) (client name topic : String) :
    (site.reply id (ChannelCommands.topicReply client name topic)).map Message.render =
      told site id (if topic = "" then "331 " ++ client ++ " " ++ name ++ " :No topic is set"
        else "332 " ++ client ++ " " ++ name ++ " :" ++ topic) := by
  have hnone : Numeric.noTopic.text = "331" := by decide
  have hsome : Numeric.topic.text = "332" := by decide
  unfold ChannelCommands.topicReply
  simp only [String.isEmpty_iff]
  split
  · rw [Reply.noTopic, map_render_reply, hnone]
    exact congrArg (told site id) (String.toList_inj.mp (by simp [Body.renderFreeText]))
  · rw [Reply.topic, map_render_reply, hsome]
    exact congrArg (told site id) (String.toList_inj.mp (by simp [Body.renderFreeText]))

theorem map_render_names (site : Site) (id : Handle) (client name list : String) :
    (site.reply id (Reply.names client name list)).map Message.render =
      told site id ("353 " ++ client ++ " = " ++ name ++ " :" ++ list) := by
  have hnumber : Numeric.names.text = "353" := by decide
  rw [Reply.names, map_render_reply, hnumber]
  exact congrArg (told site id) (String.toList_inj.mp (by simp [Body.renderFreeText]))

theorem map_render_endOfNames (site : Site) (id : Handle) (client name : String) :
    (site.reply id (Reply.endOfNames client name)).map Message.render =
      told site id ("366 " ++ client ++ " " ++ name ++ " :End of /NAMES list") := by
  have hnumber : Numeric.endOfNames.text = "366" := by decide
  rw [Reply.endOfNames, map_render_reply, hnumber]
  exact congrArg (told site id) (String.toList_inj.mp (by simp [Body.renderFreeText]))

/-- The announcement of a newcomer, as it goes out: the news for all who are on the channel,
and then for the newcomer alone the topic, who is there, and that this is all. -/
theorem map_render_announceJoin {nickname username hostname : String}
    (hname : Names.isChannelName name = true) (haddress : d.address id = nickname)
    (horigin : d.origin id = .user nickname username hostname) :
    (ChannelCommands.announceJoin site d id c name).map (Outgoing.map Message.render) =
      Outgoing.sendAll (d.recipients c none)
          (":" ++ nickname ++ "!" ++ username ++ "@" ++ hostname ++ " JOIN " ++ name ++ "\r\n") ++
        [told site id (if c.topic = "" then "331 " ++ nickname ++ " " ++ name ++ " :No topic is set"
            else "332 " ++ nickname ++ " " ++ name ++ " :" ++ c.topic),
          told site id ("353 " ++ nickname ++ " = " ++ name ++ " :" ++ c.namesList),
          told site id ("366 " ++ nickname ++ " " ++ name ++ " :End of /NAMES list")] := by
  unfold ChannelCommands.announceJoin
  rw [haddress, horigin, ← Message.render_join nickname username hostname hname,
    ← map_render_topicReply, ← map_render_names, ← map_render_endOfNames]
  dsimp only
  rw [List.map_append, Outgoing.sendAll, List.map_map]
  rfl

end Relay

namespace Relay

variable {site : Site} {d : Directory} {id : Handle} {s : Session} {name text : String}
  {c : Channel}

/-- One who is on the channel already gets no answer. -/
theorem receive_joinLine_of_member (hs : d.session? id = some s) (hin : s.loggedIn = true)
    (hname : Names.isChannelName name = true) (hc : d.channel? name = some c)
    (hm : c.isMember (d.address id) = true) :
    receive site d id (Request.joinLine name) = (d, []) := by
  obtain ⟨tail, hgives, htail⟩ := Request.joins_joinLine hname
  have hperform : Dispatch.perform site d id tail .join = _ :=
    ChannelCommands.join_channel hname htail
  rw [receive_of_loggedIn site hs hin hgives (by decide), hperform, hc]
  dsimp only
  rw [if_pos hm]
  exact Dispatch.conclude_done rfl

/-- A newcomer is taken in, or creates the channel, and is announced. Nothing else
changes. -/
theorem receive_joins_of_newcomer (site : Site) (hs : d.session? id = some s)
    (hin : s.loggedIn = true) (hsaid : Request.Joins text name)
    (hname : Names.isChannelName name = true)
    (hnew : ∀ c, d.channel? name = some c → ¬c.isMember (d.address id) = true) :
    ∃ d' after, receive site d id text =
        (d', ChannelCommands.announceJoin site d' id after name) ∧
      d'.sessions = d.sessions ∧ d'.holders = d.holders ∧
      (∀ key, d'.channel? key = if name = key then some after else d.channel? key) ∧
      after.Entered name (d.address id) (d.channel? name) := by
  obtain ⟨tail, hgives, htail⟩ := hsaid
  have hperform : Dispatch.perform site d id tail .join = _ :=
    ChannelCommands.join_channel hname htail
  rw [receive_of_loggedIn site hs hin hgives (by decide), hperform]
  cases hc : d.channel? name with
  | some c =>
    dsimp only
    rw [if_neg (hnew c hc)]
    refine ⟨_, _, Dispatch.conclude_done rfl, rfl, rfl, fun key => ?_, fun c' hc' => ?_, nofun⟩
    · rw [channel?_updateChannel, hc]
      rfl
    · cases hc'
      rfl
  | none =>
    refine ⟨_, _, Dispatch.conclude_done rfl, rfl, rfl, fun key => channel?_putChannel, nofun,
      fun _ => ⟨rfl, rfl, fun n => ?_, fun n => ?_⟩⟩
    · exact Channel.mem_members_create.trans eq_comm
    · exact Channel.mem_operators_create.trans eq_comm

/-- So it is when the request is written as clients write it. -/
theorem receive_joinLine_of_newcomer (site : Site) (hs : d.session? id = some s)
    (hin : s.loggedIn = true) (hname : Names.isChannelName name = true)
    (hnew : ∀ c, d.channel? name = some c → ¬c.isMember (d.address id) = true) :
    ∃ d' after, receive site d id (Request.joinLine name) =
        (d', ChannelCommands.announceJoin site d' id after name) ∧
      d'.sessions = d.sessions ∧ d'.holders = d.holders ∧
      (∀ key, d'.channel? key = if name = key then some after else d.channel? key) ∧
      after.Entered name (d.address id) (d.channel? name) :=
  receive_joins_of_newcomer site hs hin (Request.joins_joinLine hname) hname hnew

/-- Coming into a channel, from the line to all that follows from it: who is sent the news and
what the newcomer is told, in which order, what has changed, and that nothing comes of it for
whoever is on the channel already. -/
theorem join_end_to_end (site : Site) {events : List Event} (fresh : FreshHandles events)
    {id : Handle} {s : Session} (hs : (run site .empty events).session? id = some s)
    (hin : s.loggedIn = true) {name : String} (hname : Names.isChannelName name = true) :
    let d := run site .empty events
    let effect := step site d (.line id ("JOIN " ++ name))
    ∃ nickname username hostname,
      s.nickname = some nickname ∧ s.username = some username ∧ s.hostname = some hostname ∧
      (∀ c, d.channel? name = some c → nickname ∈ c.members → effect = (d, [])) ∧
      ((∀ c, d.channel? name = some c → nickname ∉ c.members) →
        ∃ after ids operators others,
          (effect.1.sessions = d.sessions ∧ effect.1.holders = d.holders ∧
            (∀ key, effect.1.channel? key = if name = key then some after else d.channel? key) ∧
            after.Entered name nickname (d.channel? name)) ∧
          effect.2.map (Outgoing.map Message.render) =
            Outgoing.sendAll ids (":" ++ nickname ++ "!" ++ username ++ "@" ++ hostname ++
                " JOIN " ++ name ++ "\r\n") ++
              [told site id (if after.topic = ""
                  then "331 " ++ nickname ++ " " ++ name ++ " :No topic is set"
                  else "332 " ++ nickname ++ " " ++ name ++ " :" ++ after.topic),
                told site id ("353 " ++ nickname ++ " = " ++ name ++ " :" ++
                  " ".intercalate (operators.map ("@" ++ ·) ++ others)),
                told site id ("366 " ++ nickname ++ " " ++ name ++ " :End of /NAMES list")] ∧
          (ids.Nodup ∧ id ∈ ids ∧ ∀ k, k ∈ ids ↔
            ∃ t n, d.session? k = some t ∧ t.nickname = some n ∧ n ∈ after.members) ∧
          after.ListedAs operators others ∧ (operators ++ others).Nodup ∧
          (∀ n, n ∈ operators ++ others ↔ n ∈ after.members) ∧
          operators.Pairwise ByteBefore ∧ others.Pairwise ByteBefore) := by
  intro d effect
  have hd : d.Sound := run_sound site fresh
  obtain ⟨nickname, username, hostname, hnickname, husername, hhostname, haddress, horigin⟩ :=
    hd.admissible.exists_names hs hin
  refine ⟨nickname, username, hostname, hnickname, husername, hhostname, ?_, ?_⟩
  · intro c hc hmember
    refine receive_joinLine_of_member hs hin hname hc ?_
    rw [haddress]
    exact Channel.isMember_iff.mpr hmember
  · intro houtside
    have hnew : ∀ c, d.channel? name = some c → ¬c.isMember (d.address id) = true := by
      intro c hc hm
      rw [haddress] at hm
      exact houtside c hc (Channel.isMember_iff.mp hm)
    obtain ⟨d', after, heffect, hsessions, hholders, hchannels, hentered⟩ :=
      receive_joinLine_of_newcomer site hs hin hname hnew
    have heffect : effect = _ := heffect
    have hd' : d'.Sound := by
      have hsound : effect.1.Sound := sound_receive hd site id (Request.joinLine name)
      rwa [heffect] at hsound
    -- no session changes, so the newcomer signs as before and everybody is found as before
    have hsession : ∀ k, d'.session? k = d.session? k := fun k => by
      rw [session?, hsessions, session?]
    have hafter : d'.channel? name = some after := (hchannels name).trans (if_pos rfl)
    have haddress' : d'.address id = nickname := (address_congr (hsession id)).trans haddress
    have horigin' : d'.origin id = .user nickname username hostname :=
      (origin_congr (hsession id)).trans horigin
    have hlisted : after.ListedAs after.operators.toList after.plainMembers :=
      after.listedAs_entries
    have hsub : ∀ n, n ∈ after.operators → n ∈ after.members :=
      (hd'.channels name after hafter).operators_sub
    rw [haddress] at hentered
    rw [heffect]
    have hids : ∀ k, k ∈ d'.recipients after none ↔
        ∃ t n, d.session? k = some t ∧ t.nickname = some n ∧ n ∈ after.members := by
      intro k
      rw [mem_recipients_none hd'.agree, hsession]
    refine ⟨after, d'.recipients after none, after.operators.toList, after.plainMembers,
      ⟨hsessions, hholders, hchannels, hentered⟩, ?_, ⟨recipients_nodup hd'.agree, ?_, hids⟩,
      hlisted, hlisted.nodup, fun n => hlisted.mem_append (hsub n),
      byteBefore_toList after.operators, Channel.byteBefore_plainMembers after⟩
    · exact map_render_announceJoin hname haddress' horigin'
    · exact (hids id).mpr ⟨s, nickname, hs, hnickname, hentered.mem⟩

/-- Eve comes into the channel of the gathering. The three who are there hear of it and so
does she, and she is told that there is no topic and who is there. -/
theorem join_end_to_end_gathering :
    let d := run .sample .empty gathering
    let effect := step .sample d (.line 4 ("JOIN " ++ "#lean"))
    FreshHandles gathering ∧ d.isLoggedIn 4 = true ∧ Names.isChannelName "#lean" = true ∧
      d.isOnChannel "#lean" "eve" = false ∧
      effect.2.map (Outgoing.map Message.render) =
        Outgoing.sendAll [3, 2, 4, 1] ":eve!eve@host JOIN #lean\r\n" ++
          [told .sample 4 "331 eve #lean :No topic is set",
            told .sample 4 "353 eve = #lean :@zoe ann bob eve",
            told .sample 4 "366 eve #lean :End of /NAMES list"] ∧
      ∃ after, effect.1.channel? "#lean" = some after ∧
        after.Entered "#lean" "eve" (d.channel? "#lean") := by
  intro d effect
  have fresh : FreshHandles gathering := by decide
  have hs : d.session? 4 =
      some ⟨some "eve", some "eve", some "host", true, false, false, true, none⟩ := by
    decide +kernel
  have hname : Names.isChannelName "#lean" = true := by decide
  have hout : d.isOnChannel "#lean" "eve" = false := by decide +kernel
  have hcalls : effect.2.map (Outgoing.map Message.render) =
      Outgoing.sendAll [3, 2, 4, 1] ":eve!eve@host JOIN #lean\r\n" ++
        [told .sample 4 "331 eve #lean :No topic is set",
          told .sample 4 "353 eve = #lean :@zoe ann bob eve",
          told .sample 4 "366 eve #lean :End of /NAMES list"] := by
    decide +kernel
  obtain ⟨_, _, _, hn, -, -, -, hjoins⟩ := join_end_to_end .sample fresh hs rfl hname
  cases hn
  have houtside : ∀ c, d.channel? "#lean" = some c → "eve" ∉ c.members := by
    intro c hc hm
    rw [isOnChannel, hc, Option.any_some, Channel.isMember_iff.mpr hm] at hout
    cases hout
  obtain ⟨after, _, _, _, ⟨-, -, hchannels, hentered⟩, -⟩ := hjoins houtside
  exact ⟨fresh, (isLoggedIn_of_session? hs).trans rfl, hname, hout, hcalls, after,
    (hchannels "#lean").trans (if_pos rfl), hentered⟩

end Relay

end RelayChat
