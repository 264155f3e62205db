import RelayChat.Proofs.ChannelJoining
import RelayChat.Proofs.Founders

/-!
# Leaving a channel

Whoever comes into a channel and leaves it again leaves everything as it was. A channel that
was there loses the newcomer and nobody else, since the newcomer was neither on it nor an
operator of it before, and a channel that the newcomer created goes with it
(`leave?_of_entered`). In between, the news of the leaving is for everybody who is on the
channel.
-/

namespace RelayChat

open Directory

/-! ## The line -/

namespace Request

/-- A request to leave a channel, as a client writes it, with whatever follows the name. -/
def partLine (name rest : String) : String :=
  "PART " ++ name ++ rest

/-- A request to leave a channel is read with the name first. -/
theorem parse?_partLine {name : String} (hname : Names.isChannelName name = true)
    (rest : String) : parse? (partLine name rest) = some ⟨"PART", name ++ trimmed rest⟩ := by
  have hline : partLine name rest = "PART" ++ " " ++ name ++ rest :=
    String.toList_inj.mp (by simp [partLine])
  have hcommand : Words.IsWord "PART".toList := ⟨by decide, by decide⟩
  have hword : Words.IsWord name.toList := Names.isWord_of_isChannelName hname
  rw [hline, parse?_parameter hcommand (by decide) hword fun _ => Names.isLineEnd_eq_false hname]

end Request

namespace Words

/-- The reason that stands behind the name of a channel, if there is one. -/
def partReason (rest : String) : Option String :=
  reason? (trailing (dropSpaces rest))

theorem partReason_empty : partReason "" = none := by
  decide

/-- A reason is free text. -/
theorem partReason_freeText (text : String) : partReason (" :" ++ text) = reason? text := by
  have hhead : (":" ++ text).toList.head? ≠ some ' ' := by
    simp
  rw [partReason, freeText_eq, dropSpaces_space hhead, trailing_colon]

end Words

/-! ## What becomes of the channel -/

namespace Directory

variable {d : Directory} {name n : String} {before : Option Channel} {after : Channel}

/-- Leaving undoes coming in. -/
theorem leave?_of_entered (hsound : ∀ c, before = some c → c.SoundIn d name)
    (hout : ∀ c, before = some c → n ∉ c.members) (h : after.Entered name n before) :
    leave? n after = before := by
  cases before with
  | some c =>
    have hafter : after = c.add n := h.joined c rfl
    have hkept : leave? n c = some c := (hsound c rfl).leave?_of_not_mem (hout c rfl)
    rw [hafter, leave?_congr Channel.remove_add, hkept]
  | none =>
    obtain ⟨-, -, honly, -⟩ := h.created rfl
    exact leave?_eq_none_iff.mpr fun m hm => (honly m).mp hm

/-- So the directory is the same when the newcomer has left. -/
theorem leaveChannel_of_entered {d' : Directory} (hd : d.Sound)
    (hsessions : d'.sessions = d.sessions) (hholders : d'.holders = d.holders)
    (hchannels : ∀ key, d'.channel? key = if name = key then some after else d.channel? key)
    (hout : ∀ c, d.channel? name = some c → n ∉ c.members)
    (h : after.Entered name n (d.channel? name)) : d'.leaveChannel name n = d := by
  have hleft : leave? n after = d.channel? name := leave?_of_entered (hd.channels name) hout h
  refine ext_lookups (fun k => ?_) (fun m => ?_) fun key => ?_
  · rw [session?_leaveChannel, session?, hsessions, session?]
  · rw [holder?_leaveChannel, holder?, hholders, holder?]
  · rw [channel?_leaveChannel, hchannels, if_pos rfl, Option.bind_some, hleft, hchannels]
    split
    · rename_i hkey
      rw [hkey]
    · rfl

end Directory

/-! ## What is sent -/

namespace ChannelCommands

variable {d : Directory} {id : Handle} {name rest : String} {c : Channel}

/-- The news of somebody who leaves a channel. -/
def parted (d : Directory) (id : Handle) (name : String) (reason : Option String) : Message :=
  (Message.ofBody (.part name reason)).withOrigin (d.origin id)

/-- Whoever is on a channel leaves it, and all who are on it hear of that. -/
theorem part_of_member (hname : Words.IsWord name.toList) (hrest : Words.Apart rest)
    (hc : d.channel? name = some c) (hm : c.isMember (d.address id) = true) :
    part d id (name ++ rest) = .done (d.leaveChannel name (d.address id))
      (Outgoing.sendAll (d.recipients c none) (parted d id name (Words.partReason rest))) := by
  have hinside : ¬(!c.isMember (d.address id)) = true := by
    rw [hm]
    decide
  unfold part
  rw [Words.split_append hname hrest]
  dsimp only
  rw [if_neg hname.not_isEmpty, hc]
  exact if_neg hinside

end ChannelCommands

namespace Message

/-- The news of somebody who leaves a channel, as it goes out. -/
theorem render_part (nickname username hostname : String) {name : String}
    (hname : Names.isChannelName name = true) (reason : Option String) :
    render ⟨some (.user nickname username hostname), .part name reason⟩ =
      ":" ++ nickname ++ "!" ++ username ++ "@" ++ hostname ++ " PART " ++ name ++
        (reason.elim "" (" :" ++ ·)) ++ "\r\n" := by
  have hbody : Body.render (.part name reason) = "PART " ++ name ++ reason.elim "" (" :" ++ ·) := by
    cases reason with
    | none =>
      have hword : Body.needsColon name = false := Body.needsColon_eq_false_iff.mpr
        ⟨Names.isWord_of_isChannelName hname, Names.head?_ne_colon hname⟩
      apply String.toList_inj.mp
      simp [Body.render, Body.renderWords, hword]
    | some text =>
      apply String.toList_inj.mp
      simp [Body.render, Body.renderFreeText]
  apply String.toList_inj.mp
  simp [render, hbody, Origin.render, lineEnd]

end Message

namespace Relay

variable {site : Site} {d : Directory} {id : Handle} {s : Session} {name rest : String}
  {c : Channel}

/-- A request to leave a channel is carried out as it was written. -/
theorem receive_partLine (hs : d.session? id = some s) (hin : s.loggedIn = true)
    (hname : Names.isChannelName name = true) (hrest : Words.Apart rest)
    (hc : d.channel? name = some c) (hm : c.isMember (d.address id) = true) :
    receive site d id (Request.partLine name rest) =
      (d.leaveChannel name (d.address id), Outgoing.sendAll (d.recipients c none)
        (ChannelCommands.parted d id name (Words.partReason (Request.trimmed rest)))) := by
  have hword : Words.IsWord name.toList := Names.isWord_of_isChannelName hname
  have hgives : Request.Gives (Request.partLine name rest) .part (name ++ Request.trimmed rest) :=
    Request.gives_of_parse? (Request.parse?_partLine hname rest) (by decide)
  have hperform : Dispatch.perform site d id (name ++ Request.trimmed rest) .part = _ :=
    ChannelCommands.part_of_member hword (Request.apart_trimmed hrest) hc hm
  rw [receive_of_loggedIn site hs hin hgives (by decide), hperform]
  exact Dispatch.conclude_done rfl

/-- Leaving undoes coming in, with or without a reason and whether the channel was there before
or not. Everybody who is on it in between, the leaver included, is sent the news of the leaving
once, and nobody else is sent anything. -/
theorem part_undoes_join (site : Site) {events : List Event} (fresh : FreshHandles events)
    {id : Handle} {s : Session} (hs : (run site .empty events).session? id = some s)
    (hin : s.loggedIn = true) {name : String} (hname : Names.isChannelName name = true)
    (hout : ¬(run site .empty events).IsMember id name) {rest : String}
    (hrest : Words.Apart rest) :
    let d := run site .empty events
    let between := (step site d (.line id ("JOIN " ++ name))).1
    let effect := step site between (.line id ("PART " ++ name ++ rest))
    effect.1 = d ∧
      ∃ nickname username hostname reason ids,
        s.nickname = some nickname ∧ s.username = some username ∧ s.hostname = some hostname ∧
        effect.2.map (Outgoing.map Message.render) =
          Outgoing.sendAll ids (":" ++ nickname ++ "!" ++ username ++ "@" ++ hostname ++
            " PART " ++ name ++ reason.elim "" (" :" ++ ·) ++ "\r\n") ∧
        (rest = "" → reason = none) ∧
        (∀ text, rest = " :" ++ text → OneLine text →
          reason = if text = "" then none else some text) ∧
        ids.Nodup ∧ id ∈ ids ∧ ∀ k, k ∈ ids ↔ between.IsMember k name := by
  intro d between effect
  have hd : d.Sound := run_sound site fresh
  obtain ⟨nickname, username, hostname, hnickname, husername, hhostname, haddress, horigin⟩ :=
    hd.admissible.exists_names hs hin
  have hnick : d.nickname? id = some nickname := (nickname?_of_session? hs).trans hnickname
  have houtside : ∀ c, d.channel? name = some c → nickname ∉ c.members :=
    fun c hc hm => hout ⟨nickname, c, hnick, hc, hm⟩
  have hlogin : d.isLoggedIn id = true := (isLoggedIn_of_session? hs).trans hin
  have hnew : ∀ c, d.channel? name = some c → ¬c.isMember (d.address id) = true :=
    fun c hc hm => hout ((isMember_address_iff hd.admissible hlogin hc).mp hm)
  obtain ⟨d', after, hjoined, hsessions, hholders, hchannels, hentered⟩ :=
    receive_joinLine_of_newcomer site hs hin hname hnew
  have hbetween : between = d' := congrArg Prod.fst hjoined
  have hd' : d'.Sound := by
    have hsound : between.Sound := sound_receive hd site id (Request.joinLine name)
    rwa [hbetween] at hsound
  -- coming in changes no session
  have hsession : ∀ k, d'.session? k = d.session? k := fun k => by
    rw [session?, hsessions, session?]
  have hafter : d'.channel? name = some after := (hchannels name).trans (if_pos rfl)
  have haddress' : d'.address id = nickname := (address_congr (hsession id)).trans haddress
  have horigin' : d'.origin id = .user nickname username hostname :=
    (origin_congr (hsession id)).trans horigin
  rw [haddress] at hentered
  have hinside : after.isMember (d'.address id) = true := by
    rw [haddress']
    exact Channel.isMember_iff.mpr hentered.mem
  have hs' : d'.session? id = some s := (hsession id).trans hs
  have heffect : effect = _ :=
    (congrArg (step site · (.line id (Request.partLine name rest))) hbetween).trans
      (receive_partLine hs' hin hname hrest hafter hinside)
  have hrestored : d'.leaveChannel name nickname = d :=
    leaveChannel_of_entered hd hsessions hholders hchannels houtside hentered
  have hids : ∀ k, k ∈ d'.recipients after none ↔ between.IsMember k name := by
    intro k
    rw [hbetween, mem_recipients_iff_isMember hd'.agree hafter]
  have hparted : ∀ reason, ChannelCommands.parted d' id name reason =
      ⟨some (.user nickname username hostname), .part name reason⟩ := by
    intro reason
    rw [ChannelCommands.parted, horigin']
    rfl
  rw [haddress', hrestored, hparted] at heffect
  rw [heffect]
  refine ⟨rfl, nickname, username, hostname, Words.partReason (Request.trimmed rest),
    d'.recipients after none, hnickname, husername, hhostname, ?_, ?_, ?_,
    recipients_nodup hd'.agree, (hids id).mpr ?_, hids⟩
  · rw [← Message.render_part nickname username hostname hname, Outgoing.sendAll, List.map_map]
    rfl
  · intro hnone
    rw [hnone, Request.trimmed_empty, Words.partReason_empty]
  · intro text htext hline
    have hkept : Request.trimmed (" :" ++ text) = " :" ++ text :=
      Request.trimmed_of_oneLine (OneLine.append (by decide) hline)
    rw [htext, hkept, Words.partReason_freeText]
    simp only [Words.reason?, String.isEmpty_iff]
  · rw [hbetween]
    exact ⟨nickname, after, (nickname?_congr (hsession id)).trans hnick, hafter, hentered.mem⟩

/-- At the gathering eve looks in on the three, says why she leaves, and is gone without a
trace. So is the channel that she opens for herself, when she leaves it without a word. -/
theorem part_undoes_join_gathering :
    let d := run .sample .empty gathering
    let inside := (step .sample d (.line 4 ("JOIN " ++ "#lean"))).1
    let left := step .sample inside (.line 4 ("PART " ++ "#lean" ++ " :see you"))
    let alone := (step .sample d (.line 4 ("JOIN " ++ "#own"))).1
    let closed := step .sample alone (.line 4 ("PART " ++ "#own" ++ ""))
    FreshHandles gathering ∧ d.isLoggedIn 4 = true ∧ Names.isChannelName "#lean" = true ∧
      Names.isChannelName "#own" = true ∧ ¬d.IsMember 4 "#lean" ∧ ¬d.IsMember 4 "#own" ∧
      Words.Apart " :see you" ∧ Words.Apart "" ∧ left.1 = d ∧ closed.1 = d ∧
      left.2.map (Outgoing.map Message.render) =
        Outgoing.sendAll [3, 2, 4, 1] ":eve!eve@host PART #lean :see you\r\n" ∧
      closed.2.map (Outgoing.map Message.render) = [.send 4 ":eve!eve@host PART #own\r\n"] := by
  intro d inside left alone closed
  have fresh : FreshHandles gathering := by decide
  -- the run is evaluated once for all that is read off it
  obtain ⟨hs, hout, hnone, hleft, hclosed⟩ : d.session? 4 =
        some ⟨some "eve", some "eve", some "host", true, false, false, true, none⟩ ∧
      ¬d.IsMember 4 "#lean" ∧ ¬d.IsMember 4 "#own" ∧
      left.2.map (Outgoing.map Message.render) =
        Outgoing.sendAll [3, 2, 4, 1] ":eve!eve@host PART #lean :see you\r\n" ∧
      closed.2.map (Outgoing.map Message.render) = [.send 4 ":eve!eve@host PART #own\r\n"] := by
    decide +kernel
  have hlean : Names.isChannelName "#lean" = true := by decide
  have hown : Names.isChannelName "#own" = true := by decide
  have hreason : Words.Apart " :see you" := Words.apart_space ":see you"
  exact ⟨fresh, (isLoggedIn_of_session? hs).trans rfl, hlean, hown, hout, hnone, hreason,
    Words.apart_empty, (part_undoes_join .sample fresh hs rfl hlean hout hreason).1,
    (part_undoes_join .sample fresh hs rfl hown hnone Words.apart_empty).1, hleft, hclosed⟩

end Relay

end RelayChat
