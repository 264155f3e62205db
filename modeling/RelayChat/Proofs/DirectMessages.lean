import RelayChat.Proofs.ChannelDelivery
import RelayChat.Proofs.MessageLines
import RelayChat.Proofs.SoundStates

/-!
# Texts for one user

A text for a nickname that somebody holds goes to the holder, letter for letter, under the
sender's signature, and to nobody else. The look-up needs no more than that the line is
read back as it was written; the holder is the one whom the directory has.

One kind of nickname never comes so far. The sign `&` may begin a nickname, and whatever it
begins is taken for a channel (`isChannelTarget_nickname`). A text for such a nickname is
judged by the channel of that name and does not reach the holder as one for a user.
-/

namespace RelayChat

open Directory

namespace Names

variable {name : String}

/-- A target is a channel by its first character. -/
theorem isChannelTarget_iff : isChannelTarget name = true ↔
    name.toList.head? = some '#' ∨ name.toList.head? = some '&' := by
  refine ⟨?_, isChannelTarget_of_head?⟩
  unfold isChannelTarget
  cases name.toList with
  | nil => exact nofun
  | cons c rest => simp

/-- What may not stand in a nickname does not. -/
theorem not_mem_of_isNickname {c : Char} (h : isNickname name = true)
    (hc : isNickChar c = false) : c ∉ name.toList := by
  rw [isNickname, Bool.and_eq_true] at h
  intro hmem
  have hallowed : isNickChar c = true := List.all_eq_true.mp h.2 c hmem
  exact Bool.false_ne_true (hc.symm.trans hallowed)

/-- A nickname can be written as one word of a line. -/
theorem isWord_of_isNickname (h : isNickname name = true) : Words.IsWord name.toList := by
  refine ⟨fun hnil => ?_, not_mem_of_isNickname h (by decide)⟩
  rw [isNickname, hnil] at h
  cases h

/-- Of the two signs of a channel only one is kept out of nicknames. -/
theorem isChannelTarget_nickname (h : isNickname name = true) :
    isChannelTarget name = true ↔ name.toList.head? = some '&' := by
  rw [isChannelTarget_iff, or_iff_right]
  intro hhead
  have hmem : '#' ∈ name.toList := List.mem_of_head? hhead
  exact not_mem_of_isNickname h (by decide) hmem

end Names

/-- A text for a nickname is judged by its holder alone. -/
theorem Conversation.privmsg_nickname {d : Directory} {id : Handle} {name text : String}
    (hname : Words.IsWord name.toList) (htarget : Names.isChannelTarget name = false)
    (htext : text ≠ "") :
    privmsg d id (name ++ " :" ++ text) =
      match d.holder? name with
      | some holder => .done d [.send holder (spoken d id name text)]
      | none => .refused d (.noSuchNick name) := by
  have huser : (!Names.isChannelTarget name) = true := by
    rw [htarget]
    rfl
  exact (privmsg_freeText hname htext).trans (if_pos huser)

namespace Relay

/-- What becomes of a text for a nickname that is held. -/
theorem receive_privateText {site : Site} {d : Directory} {id k : Handle} {s : Session}
    {name text : String} (hs : d.session? id = some s) (hin : s.loggedIn = true)
    (hname : Words.IsWord name.toList) (htarget : Names.isChannelTarget name = false)
    (hne : text ≠ "") (htext : ∀ c ∈ text.toList, Request.isLineEnd c = false)
    (hheld : d.holder? name = some k) :
    receive site d id (Request.privmsgLine name text) =
      (d, [.send k (Conversation.spoken d id name text)]) := by
  rw [receive_privmsgLine hs hin hname htext,
    Conversation.privmsg_nickname hname htarget hne, hheld]
  exact Dispatch.conclude_done rfl

/-- Texts for one user. The holder of the nickname is sent the text under the sender's signature,
and nobody else is sent anything, unless the nickname begins with `&` and is therefore taken
for the name of a channel. Nothing changes. -/
theorem direct_messages (site : Site) {events : List Event} (fresh : FreshHandles events)
    {id : Handle} {s : Session} (hs : (run site .empty events).session? id = some s)
    (hin : s.loggedIn = true) {n : String} {k : Handle}
    (hheld : (run site .empty events).holder? n = some k) (text : String) (htext : text ≠ "")
    (hend : ∀ c ∈ text.toList, c ≠ '\r' ∧ c ≠ '\n') :
    let d := run site .empty events
    let effect := step site d (.line id ("PRIVMSG " ++ n ++ " :" ++ text))
    ∃ nickname username hostname,
      s.nickname = some nickname ∧ s.username = some username ∧ s.hostname = some hostname ∧
      effect.1 = d ∧
      (n.toList.head? ≠ some '&' →
        effect.2.map (Outgoing.map Message.render) =
          [.send k (":" ++ nickname ++ "!" ++ username ++ "@" ++ hostname ++ " PRIVMSG " ++ n ++
            " :" ++ text ++ "\r\n")]) ∧
      (n.toList.head? = some '&' →
        (d.channel? n = none → effect.2 = [site.reply id (Reply.noSuchChannel nickname n)]) ∧
        ∀ c, d.channel? n = some c →
          (nickname ∉ c.members → effect.2 = [site.reply id (Reply.notOnChannel nickname n)]) ∧
          (nickname ∈ c.members → effect.2 = Outgoing.sendAll (d.recipients c (some id))
            ⟨some (.user nickname username hostname), .privmsg n text⟩)) := by
  intro d effect
  have hd : d.Sound := run_sound site fresh
  obtain ⟨nickname, username, hostname, hnickname, husername, hhostname, haddress, horigin⟩ :=
    hd.admissible.exists_names hs hin
  have hvalid : Names.isNickname n = true := hd.agree.valid n k hheld
  have hname : Words.IsWord n.toList := Names.isWord_of_isNickname hvalid
  have hlast : ∀ c ∈ text.toList, Request.isLineEnd c = false := by
    intro c hc
    simpa [Request.isLineEnd] using hend c hc
  have hspoken : Conversation.spoken d id n text =
      ⟨some (.user nickname username hostname), .privmsg n text⟩ := by
    rw [Conversation.spoken, horigin]
    rfl
  cases htarget : Names.isChannelTarget n with
  | false =>
    have hsign : n.toList.head? ≠ some '&' := fun hsign =>
      Bool.eq_false_iff.mp htarget (Names.isChannelTarget_of_head? (Or.inr hsign))
    have heffect : effect = _ := receive_privateText hs hin hname htarget htext hlast hheld
    rw [heffect, hspoken]
    refine ⟨nickname, username, hostname, hnickname, husername, hhostname, rfl, fun _ => ?_,
      fun h => absurd h hsign⟩
    rw [← Message.render_privmsg]
    rfl
  | true =>
    have hsign : n.toList.head? = some '&' := (Names.isChannelTarget_nickname hvalid).mp htarget
    have heffect : effect = _ := receive_channelText hs hin hname htarget htext hlast
    rw [heffect, haddress, hspoken]
    refine ⟨nickname, username, hostname, hnickname, husername, hhostname, rfl,
      fun h => absurd hsign h, fun _ => ⟨?_, ?_⟩⟩
    · intro hc
      rw [hc]
    · intro c hc
      rw [hc]
      dsimp only
      constructor
      · exact fun hmember => if_neg fun hm => hmember (Channel.isMember_iff.mp hm)
      · exact fun hmember => if_pos (Channel.isMember_iff.mpr hmember)

/-- What bob tells zoe reaches her, colons and spaces included. -/
theorem direct_messages_gathering :
    FreshHandles gathering ∧ (run .sample .empty gathering).isLoggedIn 2 = true ∧
      (run .sample .empty gathering).holder? "zoe" = some 1 ∧
      (step .sample (run .sample .empty gathering)
          (.line 2 ("PRIVMSG " ++ "zoe" ++ " :" ++ ": so  be it "))).2.map
            (Outgoing.map Message.render) =
        [.send 1 ":bob!bob@host PRIVMSG zoe :: so  be it \r\n"] := by
  have fresh : FreshHandles gathering := by decide
  have hs : (run .sample .empty gathering).session? 2 =
      some ⟨some "bob", some "bob", some "host", true, false, false, true, none⟩ := by
    decide +kernel
  have hheld : (run .sample .empty gathering).holder? "zoe" = some 1 := by decide +kernel
  have hend : OneLine ": so  be it " := by decide
  obtain ⟨nickname, username, hostname, hn, hu, hh, -, htold, -⟩ :=
    direct_messages .sample fresh hs rfl hheld ": so  be it " (by decide) hend
  cases hn
  cases hu
  cases hh
  exact ⟨fresh, (isLoggedIn_of_session? hs).trans rfl, hheld, htold (by decide)⟩

/-- A user whose nickname begins with the sign of a channel, and another one. -/
def ampersand : List Event :=
  [.connect 1, .line 1 "PASS secret", .line 1 "NICK &eve", .line 1 "USER eve host",
    .connect 2, .line 2 "PASS secret", .line 2 "NICK bob", .line 2 "USER bob host"]

/-- The user holds the nickname, and a text for it does not arrive. -/
theorem direct_messages_ampersand :
    let d := run .sample .empty ampersand
    FreshHandles ampersand ∧ d.isLoggedIn 1 = true ∧ d.isLoggedIn 2 = true ∧
      d.holder? "&eve" = some 1 ∧ Names.isNickname "&eve" = true ∧
      Names.isChannelTarget "&eve" = true ∧
      (step .sample d (.line 2 "PRIVMSG &eve :hello")).2.map (Outgoing.map Message.render) =
        [.send 2 ":relay 403 bob &eve :No such channel\r\n"] ∧
      (step .sample d (.line 2 "PRIVMSG &eve :hello")).2.map (Outgoing.map Message.render) ≠
        [.send 1 ":bob!bob@host PRIVMSG &eve :hello\r\n"] := by
  decide +kernel

end Relay

end RelayChat
