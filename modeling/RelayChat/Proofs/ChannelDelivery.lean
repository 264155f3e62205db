import RelayChat.Proofs.LineReading
import RelayChat.Proofs.Recipients
import RelayChat.Proofs.SoundStates

/-!
# Texts for a channel

A text that somebody on a channel sends to it reaches everybody else who is on it
once, letter for letter, and nobody besides. The line is read back as it was written
(`receive_privmsgLine`), the members are the recipients, and the relay adds nothing but
the sender's signature. Whoever is not on the channel is told so and reaches nobody.
-/

namespace RelayChat

open Directory

namespace Names

theorem isChannelTarget_of_head? {name : String}
    (h : name.toList.head? = some '#' ∨ name.toList.head? = some '&') :
    isChannelTarget name = true := by
  unfold isChannelTarget
  cases hname : name.toList with
  | nil => simp [hname] at h
  | cons c rest => simpa [hname] using h

end Names

namespace Message

/-- A text from a user as it goes out. -/
theorem render_privmsg (nickname username hostname target text : String) :
    render ⟨some (.user nickname username hostname), .privmsg target text⟩ =
      ":" ++ nickname ++ "!" ++ username ++ "@" ++ hostname ++ " PRIVMSG " ++ target ++ " :" ++
        text ++ "\r\n" := by
  apply String.toList_inj.mp
  simp [render, Origin.render, Body.render, Body.renderFreeText, lineEnd]

end Message

namespace Dispatch

variable {site : Site} {d : Directory} {id : Handle} {verb : Verb}

theorem conclude_refused {refusal : Refusal} :
    conclude site id verb (.refused d refusal) = (d, rejection site d id verb refusal) :=
  rfl

theorem conclude_done {calls : List (Outgoing Message)} (hv : verb.isRegistration = false) :
    conclude site id verb (.done d calls) = (d, calls) := by
  rw [conclude, Outcome.done]
  dsimp only
  rw [hv, if_neg Bool.false_ne_true]

end Dispatch

namespace Conversation

variable {d : Directory} {id : Handle} {name text : String} {c : Channel}

/-- A text with its sender's signature. -/
def spoken (d : Directory) (id : Handle) (target text : String) : Message :=
  (Message.ofBody (.privmsg target text)).withOrigin (d.origin id)

/-- A text for a target that is one word goes by the target alone. -/
theorem privmsg_freeText (hname : Words.IsWord name.toList) (htext : text ≠ "") :
    privmsg d id (name ++ " :" ++ text) =
      if !Names.isChannelTarget name then
        match d.holder? name with
        | some holder => .done d [.send holder (spoken d id name text)]
        | none => .refused d (.noSuchNick name)
      else match d.channel? name with
        | none => .refused d (.noSuchChannel name)
        | some c =>
          if !c.isMember (d.address id) then .refused d (.notOnChannel name)
          else .done d (Outgoing.sendAll (d.recipients c (some id)) (spoken d id name text)) := by
  have hsaid : ¬text.isEmpty = true := fun he => htext (String.isEmpty_iff.mp he)
  unfold privmsg
  rw [Words.split_freeText hname]
  dsimp only
  rw [Words.trailing_colon, if_neg hname.not_isEmpty, if_neg hsaid]
  rfl

/-- A text for a channel is judged by the channel alone. -/
theorem privmsg_channel (hname : Words.IsWord name.toList)
    (htarget : Names.isChannelTarget name = true) (htext : text ≠ "") :
    privmsg d id (name ++ " :" ++ text) =
      match d.channel? name with
      | none => .refused d (.noSuchChannel name)
      | some c =>
        if !c.isMember (d.address id) then .refused d (.notOnChannel name)
        else .done d (Outgoing.sendAll (d.recipients c (some id)) (spoken d id name text)) := by
  have hchannel : ¬(!Names.isChannelTarget name) = true := by
    rw [htarget]
    decide
  rw [privmsg_freeText hname htext, if_neg hchannel]

end Conversation

namespace Relay

variable {site : Site} {d : Directory} {id : Handle} {s : Session} {name text : String}
  {c : Channel}

/-- What somebody who is logged in sends for a target is read as it was written. -/
theorem receive_privmsgLine (hs : d.session? id = some s) (hin : s.loggedIn = true)
    (hname : Words.IsWord name.toList) (htext : ∀ c ∈ text.toList, Request.isLineEnd c = false) :
    receive site d id (Request.privmsgLine name text) =
      Dispatch.conclude site id .privmsg (Conversation.privmsg d id (name ++ " :" ++ text)) := by
  have hgives : Request.Gives (Request.privmsgLine name text) .privmsg (name ++ " :" ++ text) :=
    Request.gives_of_parse? (Request.parse?_privmsgLine hname htext) (by decide)
  exact receive_of_loggedIn site hs hin hgives (by decide)

/-- What becomes of a text for a channel. -/
theorem receive_channelText (hs : d.session? id = some s) (hin : s.loggedIn = true)
    (hname : Words.IsWord name.toList) (htarget : Names.isChannelTarget name = true)
    (hne : text ≠ "") (htext : ∀ c ∈ text.toList, Request.isLineEnd c = false) :
    receive site d id (Request.privmsgLine name text) = (d,
      match d.channel? name with
      | none => [site.reply id (Reply.noSuchChannel (d.address id) name)]
      | some c =>
        if c.isMember (d.address id) then
          Outgoing.sendAll (d.recipients c (some id)) (Conversation.spoken d id name text)
        else [site.reply id (Reply.notOnChannel (d.address id) name)]) := by
  rw [receive_privmsgLine hs hin hname htext, Conversation.privmsg_channel hname htarget hne]
  cases d.channel? name with
  | none => exact Dispatch.conclude_refused
  | some c =>
    dsimp only
    cases c.isMember (d.address id) with
    | false => exact Dispatch.conclude_refused
    | true => exact Dispatch.conclude_done rfl

/-- Texts for a channel. Everybody on it but the sender is sent the text under the sender's
signature, once each and in the byte order of their nicknames, if the sender is on it; if not,
the sender alone is told so. Nothing changes. -/
theorem delivered_to_channel (site : Site) {events : List Event} (fresh : FreshHandles events)
    {id : Handle} {s : Session} (hs : (run site .empty events).session? id = some s)
    (hin : s.loggedIn = true) (name text : String)
    (hsign : name.toList.head? = some '#' ∨ name.toList.head? = some '&')
    (hspace : ' ' ∉ name.toList) (htext : text ≠ "")
    (hend : ∀ c ∈ text.toList, c ≠ '\r' ∧ c ≠ '\n') :
    let d := run site .empty events
    let effect := step site d (.line id ("PRIVMSG " ++ name ++ " :" ++ text))
    ∃ nickname username hostname,
      s.nickname = some nickname ∧ s.username = some username ∧ s.hostname = some hostname ∧
      effect.1 = d ∧
      (∀ c, d.channel? name = some c → nickname ∈ c.members →
        ∃ ids, effect.2.map (Outgoing.map Message.render) =
            Outgoing.sendAll ids (":" ++ nickname ++ "!" ++ username ++ "@" ++ hostname ++
              " PRIVMSG " ++ name ++ " :" ++ text ++ "\r\n") ∧
          ids.Nodup ∧ ids.Pairwise (fun j k => ByteBefore (d.address j) (d.address k)) ∧
          ∀ k, k ∈ ids ↔
            k ≠ id ∧ ∃ t n, d.session? k = some t ∧ t.nickname = some n ∧ n ∈ c.members) ∧
      (∀ c, d.channel? name = some c → nickname ∉ c.members →
        effect.2 = [site.reply id (Reply.notOnChannel nickname name)]) ∧
      (d.channel? name = none →
        effect.2 = [site.reply id (Reply.noSuchChannel nickname name)]) := by
  intro d effect
  have agree : d.NicknamesAgree := run_nicknamesAgree site fresh
  obtain ⟨nickname, username, hostname, hnickname, husername, hhostname, haddress, horigin⟩ :=
    (run_sessionsAdmissible site fresh).exists_names hs hin
  have hname : Words.IsWord name.toList := by
    refine ⟨fun hnil => ?_, hspace⟩
    simp [hnil] at hsign
  have hlast : ∀ c ∈ text.toList, Request.isLineEnd c = false := by
    intro c hc
    simpa [Request.isLineEnd] using hend c hc
  have heffect : effect = _ :=
    receive_channelText hs hin hname (Names.isChannelTarget_of_head? hsign) htext hlast
  rw [heffect, haddress]
  refine ⟨nickname, username, hostname, hnickname, husername, hhostname, rfl, ?_, ?_, ?_⟩
  · intro c hc hmember
    have hm : c.isMember nickname = true := Channel.isMember_iff.mpr hmember
    refine ⟨d.recipients c (some id), ?_, recipients_nodup agree, recipients_ordered agree, ?_⟩
    · rw [hc, ← Message.render_privmsg, ← horigin]
      dsimp only
      rw [if_pos hm, Outgoing.sendAll, List.map_map]
      rfl
    · intro k
      rw [mem_recipients agree]
      simp only [nickname?_eq_some_iff]
      constructor
      · rintro ⟨hk, n, hn, t, ht, htn⟩
        exact ⟨fun he => hk (congrArg some he), t, n, ht, htn, hn⟩
      · rintro ⟨hk, t, n, ht, htn, hn⟩
        exact ⟨fun he => hk (Option.some.inj he), n, hn, t, ht, htn⟩
  · intro c hc hmember
    have hm : ¬c.isMember nickname = true := fun hm => hmember (Channel.isMember_iff.mp hm)
    rw [hc]
    exact if_neg hm
  · intro hc
    rw [hc]

/-- Three users on a channel, who came in the reverse order of their nicknames, and one
who is not on it. -/
def gathering : List Event :=
  [.connect 1, .line 1 "PASS secret", .line 1 "USER zoe host", .line 1 "NICK zoe",
    .connect 2, .line 2 "PASS secret", .line 2 "USER bob host", .line 2 "NICK bob",
    .connect 3, .line 3 "PASS secret", .line 3 "USER ann host", .line 3 "NICK ann",
    .connect 4, .line 4 "PASS secret", .line 4 "USER eve host", .line 4 "NICK eve",
    .line 1 "JOIN #lean", .line 2 "JOIN #lean", .line 3 "JOIN #lean"]

/-- What the first of them says reaches the second, colons and spaces included, and
does not come back to the first. -/
theorem delivered_to_channel_gathering :
    FreshHandles gathering ∧ (run .sample .empty gathering).isLoggedIn 1 = true ∧
      (run .sample .empty gathering).isOnChannel "#lean" "zoe" = true ∧
      ∃ ids, (step .sample (run .sample .empty gathering)
          (.line 1 ("PRIVMSG " ++ "#lean" ++ " :" ++ ": so  be it "))).2.map
            (Outgoing.map Message.render) =
          Outgoing.sendAll ids ":zoe!zoe@host PRIVMSG #lean :: so  be it \r\n" ∧
        ids.Nodup ∧ 2 ∈ ids ∧ 1 ∉ ids := by
  have fresh : FreshHandles gathering := by decide
  have hs : (run .sample .empty gathering).session? 1 =
      some ⟨some "zoe", some "zoe", some "host", true, false, false, true, none⟩ := by
    decide +kernel
  have hin : (run .sample .empty gathering).isLoggedIn 1 = true :=
    (isLoggedIn_of_session? hs).trans rfl
  have hon : (run .sample .empty gathering).isOnChannel "#lean" "zoe" = true := by decide +kernel
  have hbob : (run .sample .empty gathering).isOnChannel "#lean" "bob" = true := by
    decide +kernel
  have hnick : (run .sample .empty gathering).nickname? 2 = some "bob" := by decide +kernel
  obtain ⟨c, hc, hmember⟩ := (Option.any_eq_true _ _).mp hon
  have hbob : "bob" ∈ c.members := by
    rw [isOnChannel, hc] at hbob
    exact Channel.isMember_iff.mp hbob
  obtain ⟨t, ht, htn⟩ := nickname?_eq_some_iff.mp hnick
  have hend : ∀ c ∈ ": so  be it ".toList, c ≠ '\r' ∧ c ≠ '\n' := by
    have hall : ": so  be it ".toList.all (fun c => decide (c ≠ '\r' ∧ c ≠ '\n')) = true := by
      decide +kernel
    exact fun c hc => of_decide_eq_true (List.all_eq_true.mp hall c hc)
  obtain ⟨nickname, username, hostname, hn, hu, hh, -, hspoken, -⟩ :=
    delivered_to_channel .sample fresh hs rfl "#lean" ": so  be it " (by decide) (by decide)
      (by decide) hend
  cases hn
  cases hu
  cases hh
  obtain ⟨ids, hcalls, hnodup, -, hids⟩ := hspoken c hc (Channel.isMember_iff.mp hmember)
  refine ⟨fresh, hin, hon, ids, hcalls, hnodup, ?_, ?_⟩
  · exact (hids 2).mpr ⟨by decide, t, "bob", ht, htn, hbob⟩
  · exact fun hmem => ((hids 1).mp hmem).1 rfl

end Relay

end RelayChat
