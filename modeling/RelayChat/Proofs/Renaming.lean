import RelayChat.Proofs.DirectMessages
import RelayChat.Proofs.LoginGate
import RelayChat.Proofs.MessageReading
import RelayChat.Proofs.SingleLines

/-!
# A nickname and back

Whoever takes another nickname and then the old one again leaves everything as it was. The
new nickname was free, so nobody of that name was on any channel, and the old one becomes
free with the first change: the second change finds what the first one left and undoes it in
the session, among the holders and on every channel (`takeNickname_takeNickname`).

Neither change logs anybody in. A session that has a nickname lacks the same before and
after it, and between two events nobody who lacks nothing is left waiting.
-/

namespace RelayChat

open Directory

/-! ## What changes and changes back -/

namespace Channel

variable {c : Channel} {set : NicknameSet} {old new : String}

/-- Where the new nickname was not, the old one comes back. -/
theorem renameIn_renameIn (hnew : new ∉ set) : renameIn (renameIn set old new) new old = set := by
  by_cases hold : old ∈ set
  · have hin : new ∈ renameIn set old new := (mem_renameIn hold).mpr (Or.inl rfl)
    refine Std.ExtTreeSet.ext_mem fun m => ?_
    rw [mem_renameIn hin, mem_renameIn hold]
    constructor
    · rintro (rfl | ⟨hne, rfl | ⟨-, hm⟩⟩)
      · exact hold
      · exact absurd rfl hne
      · exact hm
    · intro hm
      by_cases he : old = m
      · exact Or.inl he
      · have hne : new ≠ m := fun hnm => hnew (hnm ▸ hm)
        exact Or.inr ⟨hne, Or.inr ⟨he, hm⟩⟩
  · rw [renameIn_of_not_mem hold, renameIn_of_not_mem hnew]

theorem rename_rename (hm : new ∉ c.members) (ho : new ∉ c.operators) :
    (c.rename old new).rename new old = c := by
  rw [rename, rename, renameIn_renameIn hm, renameIn_renameIn ho]

end Channel

namespace Directory

variable {d : Directory} {id : Handle} {s : Session} {old new : String}

/-- The session of a connection after it has taken a nickname. -/
theorem session?_takeNickname_self (hs : d.session? id = some s) :
    (d.takeNickname id new).session? id = some { s with nickname := some new } := by
  rw [session?_takeNickname, if_pos rfl, hs, Option.map_some]

/-- Taking the old nickname again undoes taking a free one. -/
theorem takeNickname_takeNickname (hd : d.Sound) (hs : d.session? id = some s)
    (hold : s.nickname = some old) (free : d.holder? new = none) :
    (d.takeNickname id new).takeNickname id old = d := by
  have hs' : (d.takeNickname id new).session? id = some { s with nickname := some new } :=
    session?_takeNickname_self hs
  have hheld : d.holder? old = some id := hd.agree.holder?_of_session? hs hold
  refine ext_lookups (fun k => ?_) (fun n => ?_) fun name => ?_
  · by_cases hk : id = k
    · subst hk
      rw [session?_takeNickname_self hs', hs, ← hold]
    · rw [session?_takeNickname, if_neg hk, session?_takeNickname, if_neg hk]
  · rw [holder?_takeNickname hs', holder?_takeNickname hs, hold]
    by_cases hn : old = n
    · rw [if_pos hn, ← hn, hheld]
    · have hother : ¬some old = some n := fun he => hn (Option.some.inj he)
      rw [if_neg hn, if_neg hother]
      by_cases hnew : new = n
      · rw [if_pos (congrArg some hnew), ← hnew, free]
      · rw [if_neg fun he => hnew (Option.some.inj he), if_neg hnew]
  · rw [channel?_takeNickname hs', channel?_takeNickname hs, hold]
    dsimp only
    cases hc : d.channel? name with
    | none => rfl
    | some c =>
      have hback : (c.rename old new).rename new old = c :=
        Channel.rename_rename (hd.not_mem_of_free free hc) (hd.not_operator_of_free free hc)
      rw [Option.map_some, Option.map_some, hback]

end Directory

/-- Another nickname in the place of one completes no session. -/
theorem Session.isComplete_renamed {s : Session} {old new : String}
    (hold : s.nickname = some old) :
    ({ s with nickname := some new } : Session).isComplete = s.isComplete := by
  simp only [isComplete, hold, Option.isSome_some]

/-! ## The line -/

namespace Request

/-- A request for a nickname, as a client writes it. -/
def nickLine (new : String) : String :=
  "NICK " ++ new

/-- A request for a nickname is read as it was written. -/
theorem parse?_nickLine {new : String} (valid : Names.isNickname new = true)
    (hline : OneLine new) : parse? (nickLine new) = some ⟨"NICK", new⟩ := by
  have htext : nickLine new = "NICK" ++ " " ++ new ++ "" :=
    String.toList_inj.mp (by simp [nickLine])
  have hcommand : Words.IsWord "NICK".toList := ⟨by decide, by decide⟩
  have hword : Words.IsWord new.toList := Names.isWord_of_isNickname valid
  have hends : ∀ c ∈ new.toList, isLineEnd c = false := by
    intro c hc
    simpa [isLineEnd] using hline c hc
  rw [htext, parse?_parameter hcommand (by decide) hword hends, trimmed_empty,
    String.append_empty]

end Request

/-- The news of a new nickname, as it goes out. -/
theorem Message.render_nick (nickname username hostname new : String) :
    render ⟨some (.user nickname username hostname), .nick new⟩ =
      ":" ++ nickname ++ "!" ++ username ++ "@" ++ hostname ++ " NICK :" ++ new ++ "\r\n" := by
  apply String.toList_inj.mp
  simp [render, Body.render, Body.renderFreeText, Origin.render, lineEnd]

section Effects

variable {site : Site} {d : Directory} {id : Handle} {s : Session} {old new : String}

/-- A free nickname is taken, and announced under the old one. -/
theorem Registration.nick_of_free (valid : Names.isNickname new = true)
    (free : d.holder? new = none) (hs : d.session? id = some s) :
    nick d id new = .done (d.takeNickname id new)
      (if s.loggedIn then [.broadcast ⟨some s.origin, .nick new⟩] else []) := by
  have hword : Words.IsWord new.toList := Names.isWord_of_isNickname valid
  have hcolon : new.toList.head? ≠ some ':' := fun hhead =>
    Names.not_mem_of_isNickname valid (by decide) (List.mem_of_head? hhead)
  have hvalid : ¬(!Names.isNickname new) = true := by
    rw [valid]
    decide
  unfold nick
  rw [Words.firstParameter_word hword hcolon]
  dsimp only
  rw [if_neg hword.not_isEmpty, if_neg hvalid, free, isLoggedIn_of_session? hs,
    origin_of_session? hs]
  rfl

/-- A request for a free nickname is carried out, and logs nobody in who has a nickname
already. -/
theorem Relay.receive_nickLine (hs : d.session? id = some s) (hold : s.nickname = some old)
    (settled : s.isComplete = true → s.loggedIn = true) (valid : Names.isNickname new = true)
    (hline : OneLine new) (free : d.holder? new = none) :
    receive site d id (Request.nickLine new) = (d.takeNickname id new,
      if s.loggedIn then [.broadcast ⟨some s.origin, .nick new⟩] else []) := by
  have hgives : Request.Gives (Request.nickLine new) .nick new :=
    Request.gives_of_parse? (Request.parse?_nickLine valid hline) (by decide)
  have hattempt : Dispatch.attempt site d id new .nick = .done (d.takeNickname id new)
      (if s.loggedIn then [.broadcast ⟨some s.origin, .nick new⟩] else []) :=
    Registration.nick_of_free valid free hs
  have hlogin : Registration.logIn site (d.takeNickname id new) id =
      (d.takeNickname id new, []) := by
    apply Registration.logIn_of_not_due
    intro t ht hcomplete
    rw [session?_takeNickname_self hs] at ht
    cases ht
    rw [Session.isComplete_renamed hold] at hcomplete
    exact settled hcomplete
  rw [receive_of_gives site hs hgives (by decide), hattempt, Dispatch.conclude]
  dsimp only [Outcome.done]
  rw [if_pos (by decide), hlogin, List.append_nil]

end Effects

namespace Relay

/-- A nickname and back. In every state that a run of single lines reaches, whoever has a
nickname, takes a free one and then its own again leaves the same sessions, holders and
channels. If it is logged in, all are told of each change once, under the signature that it
had before, and nothing else is sent; if not, nothing is sent at all. -/
theorem renaming_back_restores (site : Site) {events : List Event} (fresh : FreshHandles events)
    (hlines : ∀ id text, Event.line id text ∈ events → OneLine text) {id : Handle} {s : Session}
    (hs : (run site .empty events).session? id = some s) {old new : String}
    (hold : s.nickname = some old) (valid : Names.isNickname new = true) (hnew : OneLine new)
    (free : (run site .empty events).holder? new = none) :
    let d := run site .empty events
    let away := step site d (.line id ("NICK " ++ new))
    let back := step site away.1 (.line id ("NICK " ++ old))
    back.1 = d ∧
      (s.loggedIn = true → ∃ username hostname,
        s.username = some username ∧ s.hostname = some hostname ∧
        away.2.map (Outgoing.map Message.render) =
          [.broadcast (":" ++ old ++ "!" ++ username ++ "@" ++ hostname ++ " NICK :" ++ new ++
            "\r\n")] ∧
        back.2.map (Outgoing.map Message.render) =
          [.broadcast (":" ++ new ++ "!" ++ username ++ "@" ++ hostname ++ " NICK :" ++ old ++
            "\r\n")]) ∧
      (s.loggedIn = false → away.2 = [] ∧ back.2 = []) := by
  intro d away back
  have hd : d.Sound := run_sound site fresh
  have hheld : d.holder? old = some id := hd.agree.holder?_of_session? hs hold
  have hvalid : Names.isNickname old = true := hd.agree.valid old id hheld
  have holdLine : OneLine old :=
    ((run_keepsLines site .empty hlines).sessions id s hs).nickname old hold
  have settled : s.isComplete = true → s.loggedIn = true := run_settled site fresh id s hs
  have haway : away = _ := receive_nickLine hs hold settled valid hnew free
  -- the old nickname is free as soon as the new one is taken
  have hs' : (d.takeNickname id new).session? id = some { s with nickname := some new } :=
    session?_takeNickname_self hs
  have hne : ¬new = old := by
    rintro rfl
    cases free.symm.trans hheld
  have hfree : (d.takeNickname id new).holder? old = none := by
    rw [holder?_takeNickname hs, if_neg hne, if_pos hold]
  have settled' : ({ s with nickname := some new } : Session).isComplete = true →
      s.loggedIn = true := by
    rw [Session.isComplete_renamed hold]
    exact settled
  have hbetween : away.1 = d.takeNickname id new := congrArg Prod.fst haway
  have hback : back = _ :=
    (congrArg (step site · (.line id (Request.nickLine old))) hbetween).trans
      (receive_nickLine hs' rfl settled' hvalid holdLine hfree)
  rw [takeNickname_takeNickname hd hs hold free] at hback
  rw [haway, hback]
  refine ⟨rfl, fun hin => ?_, fun hout => ?_⟩
  · obtain ⟨nickname, username, hostname, hnickname, husername, hhostname, -⟩ :=
      hd.admissible.exists_names hs hin
    cases hold.symm.trans hnickname
    have horigin : s.origin = .user old username hostname :=
      Session.origin_of_names hold husername hhostname
    have horigin' : ({ s with nickname := some new } : Session).origin =
        .user new username hostname := Session.origin_of_names rfl husername hhostname
    refine ⟨username, hostname, husername, hhostname, ?_, ?_⟩
    · rw [if_pos hin, horigin, ← Message.render_nick]
      rfl
    · dsimp only
      rw [if_pos hin, horigin', ← Message.render_nick]
      rfl
  · dsimp only
    rw [hout]
    exact ⟨rfl, rfl⟩

/-- Zoe, who has created the channel, is an operator of it under her own name again, and ann,
who is not logged in, changes her name back unheard. -/
theorem renaming_back_restores_gathering :
    let d := run .sample .empty gathering
    let away := step .sample d (.line 1 ("NICK " ++ "Zed"))
    let back := step .sample away.1 (.line 1 ("NICK " ++ "zoe"))
    let e := run .sample .empty exchange
    let unheard := step .sample e (.line 2 ("NICK " ++ "bob"))
    let again := step .sample unheard.1 (.line 2 ("NICK " ++ "ann"))
    FreshHandles gathering ∧ FreshHandles exchange ∧
      (∀ id text, Event.line id text ∈ gathering → OneLine text) ∧
      (∀ id text, Event.line id text ∈ exchange → OneLine text) ∧
      d.nickname? 1 = some "zoe" ∧ e.nickname? 2 = some "ann" ∧ d.isLoggedIn 1 = true ∧
      e.isLoggedIn 2 = false ∧ Names.isNickname "Zed" = true ∧ Names.isNickname "bob" = true ∧
      d.holder? "Zed" = none ∧ e.holder? "bob" = none ∧ back.1 = d ∧ again.1 = e ∧
      away.2.map (Outgoing.map Message.render) = [.broadcast ":zoe!zoe@host NICK :Zed\r\n"] ∧
      back.2.map (Outgoing.map Message.render) = [.broadcast ":Zed!zoe@host NICK :zoe\r\n"] ∧
      unheard.2 = [] ∧ again.2 = [] := by
  intro d away back e unheard again
  have fresh : FreshHandles gathering := by decide
  have freshExchange : FreshHandles exchange := by decide
  have hlines : ∀ id text, Event.line id text ∈ gathering → OneLine text := by
    simp +decide [gathering, or_imp, forall_and]
  have hlinesExchange : ∀ id text, Event.line id text ∈ exchange → OneLine text := by
    simp +decide [exchange, or_imp, forall_and]
  have hs : d.session? 1 =
      some ⟨some "zoe", some "zoe", some "host", true, false, false, true, none⟩ := by
    decide +kernel
  have ht : e.session? 2 = some ⟨some "ann", none, none, false, false, false, false, none⟩ := by
    decide +kernel
  have hzed : d.holder? "Zed" = none := by decide +kernel
  have hbob : e.holder? "bob" = none := by decide +kernel
  have hvalid : Names.isNickname "Zed" = true := by decide
  have hvalidBob : Names.isNickname "bob" = true := by decide
  obtain ⟨hd, htold, -⟩ :=
    renaming_back_restores .sample fresh hlines hs rfl hvalid (by decide) hzed
  obtain ⟨he, -, hsilent⟩ := renaming_back_restores .sample freshExchange hlinesExchange ht rfl
    hvalidBob (by decide) hbob
  obtain ⟨username, hostname, husername, hhostname, haway, hback⟩ := htold rfl
  cases husername
  cases hhostname
  obtain ⟨hunheard, hagain⟩ := hsilent rfl
  exact ⟨fresh, freshExchange, hlines, hlinesExchange, nickname?_of_session? hs,
    nickname?_of_session? ht, isLoggedIn_of_session? hs, isLoggedIn_of_session? ht, hvalid,
    hvalidBob, hzed, hbob, hd, he, haway, hback, hunheard, hagain⟩

end Relay

end RelayChat
