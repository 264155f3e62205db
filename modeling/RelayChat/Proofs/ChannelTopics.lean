import RelayChat.Proofs.ChannelJoining
import RelayChat.Proofs.Founders

/-!
# The topic is the last one set

A channel keeps one text, its topic, and forgets those before. `topicsGiven` reads them off
the events: the texts of all lines that set the topic, as long as the sender was on the
channel when it sent the line. The topic after one more event is the text that the event
gives, if it gives one, and otherwise stays as it was (`topic_step`), whoever else comes,
goes or takes another name. So it is at all times the last of the texts that were given since
the channel came, or empty if there was none (`topic_of_run`).

Members and newcomers are told this topic, in one of two replies. Whoever is not on the
channel can neither ask for it nor set it.
-/

namespace RelayChat

open Directory

/-! ## Lines about topics -/

namespace Request

/-- The line asks for the topic of the channel. -/
def AsksTopic (text name : String) : Prop :=
  ∃ tail, Gives text .topic tail ∧ (Words.split tail).1 = name ∧ (Words.split tail).2 = ""

/-- The topic that a line gives the channel, if it sets one. -/
def topicGiven? (name text : String) : Option String :=
  (parse? text).bind fun request =>
    if request.verb = .topic ∧ (Words.split request.tail).1 = name ∧
        (Words.split request.tail).2 ≠ "" then
      some (Words.trailing (Words.split request.tail).2)
    else none

variable {name text topic : String}

theorem topicGiven?_eq_some_iff :
    topicGiven? name text = some topic ↔ SetsTopic text name topic := by
  unfold topicGiven?
  simp only [Option.bind_eq_some_iff, Option.ite_none_right_eq_some, Option.some.injEq]
  constructor
  · rintro ⟨request, hparse, ⟨hverb, hname, hrest⟩, htopic⟩
    exact ⟨request.tail, ⟨request, hparse, hverb, rfl⟩, hname, hrest, htopic.symm⟩
  · rintro ⟨tail, ⟨request, hparse, hverb, rfl⟩, hname, hrest, htopic⟩
    exact ⟨request, hparse, ⟨hverb, hname, hrest⟩, htopic.symm⟩

/-- What stands behind the name is read as it was written, but for the line ends. -/
theorem gives_topicLine (hname : Names.isChannelName name = true) (rest : String) :
    Gives ("TOPIC " ++ name ++ rest) .topic (name ++ trimmed rest) := by
  have hline : "TOPIC " ++ name ++ rest = "TOPIC" ++ " " ++ name ++ rest :=
    String.toList_inj.mp (by simp)
  have hcommand : Words.IsWord "TOPIC".toList := ⟨by decide, by decide⟩
  have hword : Words.IsWord name.toList := Names.isWord_of_isChannelName hname
  have hparse : parse? ("TOPIC " ++ name ++ rest) = some ⟨"TOPIC", name ++ trimmed rest⟩ := by
    rw [hline, parse?_parameter hcommand (by decide) hword fun _ => Names.isLineEnd_eq_false hname]
  exact gives_of_parse? hparse (by decide)

/-- The name alone is a question. -/
theorem asksTopic_name (hname : Names.isChannelName name = true) :
    AsksTopic ("TOPIC " ++ name) name := by
  have hgives : Gives ("TOPIC " ++ name ++ "") .topic (name ++ trimmed "") :=
    gives_topicLine hname ""
  have hsplit : Words.split (name ++ "") = (name, Words.dropSpaces "") :=
    Words.split_append (Names.isWord_of_isChannelName hname) Words.apart_empty
  have hnothing : Words.dropSpaces "" = "" := by decide
  rw [trimmed_empty, String.append_empty, String.append_empty] at hgives
  rw [String.append_empty, hnothing] at hsplit
  exact ⟨name, hgives, congrArg Prod.fst hsplit, congrArg Prod.snd hsplit⟩

/-- Free text behind the name is a topic, whatever the text. -/
theorem setsTopic_freeText (hname : Names.isChannelName name = true) (htext : OneLine text) :
    SetsTopic ("TOPIC " ++ name ++ " :" ++ text) name text := by
  have hword : Words.IsWord name.toList := Names.isWord_of_isChannelName hname
  have hkept : trimmed (" :" ++ text) = " :" ++ text :=
    trimmed_of_oneLine (OneLine.append (by decide) htext)
  have hgives : Gives ("TOPIC " ++ name ++ " :" ++ text) .topic (name ++ " :" ++ text) := by
    have hgives := gives_topicLine hname (" :" ++ text)
    rwa [hkept, ← String.append_assoc, ← String.append_assoc] at hgives
  have hrest : ":" ++ text ≠ "" := by
    intro he
    have hnil := congrArg String.toList he
    simp at hnil
  refine ⟨name ++ " :" ++ text, hgives, ?_⟩
  rw [Words.split_freeText hword, Words.trailing_colon]
  exact ⟨rfl, hrest, rfl⟩

end Request

/-! ## What members do -/

section Members

variable {site : Site} {d : Directory} {id : Handle} {name tail text topic : String}
  {c : Channel}

/-- Whoever is on a channel is told its topic, or sets it. -/
theorem ChannelCommands.topic_of_member (hsplit : (Words.split tail).1 = name)
    (hname : ¬name.isEmpty = true) (hc : d.channel? name = some c)
    (hm : c.isMember (d.address id) = true) :
    ChannelCommands.topic site d id tail =
      if (Words.split tail).2.isEmpty then
        .done d [site.reply id (topicReply (d.address id) name c.topic)]
      else
        .done (d.updateChannel name ({ · with topic := Words.trailing (Words.split tail).2 }))
          (Outgoing.sendAll (d.recipients c none)
            ((Message.ofBody (.topic name (Words.trailing (Words.split tail).2))).withOrigin
              (d.origin id))) := by
  have hinside : ¬(!c.isMember (d.address id)) = true := by
    rw [hm]
    decide
  unfold ChannelCommands.topic
  dsimp only
  rw [hsplit, if_neg hname, hc]
  exact if_neg hinside

namespace Relay

/-- What becomes of a request about the topic when the sender is on the channel. -/
theorem receive_topic_of_member (site : Site) (hd : d.Sound) (hmember : d.IsMember id name)
    (hc : d.channel? name = some c) (hgives : Request.Gives text .topic tail)
    (hsplit : (Words.split tail).1 = name) :
    ∃ nickname, d.nickname? id = some nickname ∧ receive site d id text =
      if (Words.split tail).2.isEmpty then
        (d, [site.reply id (ChannelCommands.topicReply nickname name c.topic)])
      else
        (d.updateChannel name ({ · with topic := Words.trailing (Words.split tail).2 }),
          Outgoing.sendAll (d.recipients c none)
            ((Message.ofBody (.topic name (Words.trailing (Words.split tail).2))).withOrigin
              (d.origin id))) := by
  obtain ⟨s, n, hs, hin, hn⟩ := hmember.exists_user hd
  have hnick : d.nickname? id = some n := (nickname?_of_session? hs).trans hn
  have haddress : d.address id = n := address_of_nickname? hnick
  have hname : ¬name.isEmpty = true :=
    (Names.isWord_of_isChannelName (hd.channels name c hc).valid).not_isEmpty
  have hlogin : d.isLoggedIn id = true := (isLoggedIn_of_session? hs).trans hin
  have hinside : c.isMember (d.address id) = true :=
    (isMember_address_iff hd.admissible hlogin hc).mpr hmember
  have hperform : Dispatch.perform site d id tail .topic = _ :=
    ChannelCommands.topic_of_member hsplit hname hc hinside
  refine ⟨n, hnick, ?_⟩
  rw [receive_of_loggedIn site hs hin hgives (by decide), hperform, haddress]
  split
  · exact Dispatch.conclude_done rfl
  · exact Dispatch.conclude_done rfl

/-- A question for the topic is answered, and changes nothing. -/
theorem receive_asksTopic (site : Site) (hd : d.Sound) (hmember : d.IsMember id name)
    (hc : d.channel? name = some c) (hsaid : Request.AsksTopic text name) :
    ∃ nickname, d.nickname? id = some nickname ∧ receive site d id text =
      (d, [site.reply id (ChannelCommands.topicReply nickname name c.topic)]) := by
  obtain ⟨tail, hgives, hsplit, hrest⟩ := hsaid
  obtain ⟨nickname, hnick, he⟩ := receive_topic_of_member site hd hmember hc hgives hsplit
  rw [if_pos (String.isEmpty_iff.mpr hrest)] at he
  exact ⟨nickname, hnick, he⟩

/-- A topic that is set is there. -/
theorem receive_setsTopic (site : Site) (hd : d.Sound) (hmember : d.IsMember id name)
    (hc : d.channel? name = some c) (hsaid : Request.SetsTopic text name topic) :
    (receive site d id text).1.channel? name = some { c with topic := topic } := by
  obtain ⟨tail, hgives, rfl, hrest, rfl⟩ := hsaid
  obtain ⟨nickname, -, he⟩ := receive_topic_of_member site hd hmember hc hgives rfl
  have hmore : ¬(Words.split tail).2.isEmpty = true := fun h => hrest (String.isEmpty_iff.mp h)
  rw [he, if_neg hmore, channel?_updateChannel, if_pos rfl, hc, Option.map_some]

/-- Whoever is not on the channel changes nothing with a request about its topic. -/
theorem receive_topic_of_outsider (site : Site) (hd : d.Sound)
    (hgives : Request.Gives text .topic tail) (hsplit : (Words.split tail).1 = name)
    (hout : ¬d.IsMember id name) : (receive site d id text).1 = d := by
  subst hsplit
  by_cases hin : d.isLoggedIn id = true
  · obtain ⟨s, hs, hsin⟩ := isLoggedIn_iff.mp hin
    rw [receive_of_loggedIn site hs hsin hgives (by decide), Dispatch.perform,
      ChannelCommands.topic]
    dsimp only
    split
    · rfl
    · cases hc : d.channel? (Words.split tail).1 with
      | none => rfl
      | some c =>
        have houtside : (!c.isMember (d.address id)) = true := by
          rw [Bool.not_eq_true', ← Bool.not_eq_true]
          exact fun hm => hout ((isMember_address_iff hd.admissible hin hc).mp hm)
        dsimp only
        rw [if_pos houtside]
        rfl
  · exact receive_of_not_loggedIn site hgives rfl (Bool.not_eq_true _ ▸ hin)

/-- Whoever comes onto a channel with its request is announced, and told the topic. -/
theorem receive_joins_told (site : Site) (hd : d.Sound) (hsaid : Request.Joins text name)
    (hout : ¬d.IsMember id name) (hin : (receive site d id text).1.IsMember id name)
    (hc : (receive site d id text).1.channel? name = some c) :
    ∃ nickname username hostname, d.nickname? id = some nickname ∧
      (receive site d id text).2.map (Outgoing.map Message.render) =
        Outgoing.sendAll ((receive site d id text).1.recipients c none)
            (":" ++ nickname ++ "!" ++ username ++ "@" ++ hostname ++ " JOIN " ++ name ++ "\r\n") ++
          [told site id (if c.topic = ""
              then "331 " ++ nickname ++ " " ++ name ++ " :No topic is set"
              else "332 " ++ nickname ++ " " ++ name ++ " :" ++ c.topic),
            told site id ("353 " ++ nickname ++ " = " ++ name ++ " :" ++ c.namesList),
            told site id ("366 " ++ nickname ++ " " ++ name ++ " :End of /NAMES list")] := by
  have hname : Names.isChannelName name = true :=
    ((sound_receive hd site id text).channels name c hc).valid
  have hlogin : d.isLoggedIn id = true := by
    obtain ⟨tail, hgives, -⟩ := hsaid
    by_contra hlogin
    rw [receive_of_not_loggedIn site hgives rfl (Bool.not_eq_true _ ▸ hlogin)] at hin
    exact hout hin
  obtain ⟨s, hs, hsin⟩ := isLoggedIn_iff.mp hlogin
  obtain ⟨nickname, username, hostname, hnickname, -, -, haddress, horigin⟩ :=
    hd.admissible.exists_names hs hsin
  have hnick : d.nickname? id = some nickname := (nickname?_of_session? hs).trans hnickname
  have hnew : ∀ c, d.channel? name = some c → ¬c.isMember (d.address id) = true :=
    fun c hc hm => hout ((isMember_address_iff hd.admissible hlogin hc).mp hm)
  obtain ⟨d', after, heffect, hsessions, -, hchannels, -⟩ :=
    receive_joins_of_newcomer site hs hsin hsaid hname hnew
  have hsession : d'.session? id = d.session? id := by
    rw [session?, hsessions, session?]
  rw [heffect, hchannels, if_pos rfl] at hc
  cases hc
  refine ⟨nickname, username, hostname, hnick, ?_⟩
  rw [heffect]
  exact map_render_announceJoin hname ((address_congr hsession).trans haddress)
    ((origin_congr hsession).trans horigin)

end Relay

end Members

/-! ## The topics of a run -/

/-- The topic that an event gives the channel: that of a line which sets one, if the sender
is on the channel. -/
def Directory.topicGiven? (d : Directory) (name : String) : Event → Option String
  | .line id text => if d.IsMember id name then Request.topicGiven? name text else none
  | _ => none

namespace Relay

/-- The topics that a channel is given in a series of events, in order. -/
def topicsGiven (site : Site) (name : String) (d : Directory) : List Event → List String
  | [] => []
  | event :: after =>
    (d.topicGiven? name event).toList ++ topicsGiven site name (step site d event).1 after

/-- The channel came with this line, and has been there ever since. -/
structure StandsSince (site : Site) (name : String) (before : List Event) (id : Handle)
    (text : String) (since : List Event) : Prop where
  /-- The line asked to come in. -/
  said : Request.Joins text name
  /-- There was no such channel before it. -/
  absent : (run site .empty before).channel? name = none
  /-- From then on there was. -/
  stays : ∀ between, between <+: since →
    (run site .empty (before ++ .line id text :: between)).channel? name ≠ none

section Runs

variable {site : Site} {d : Directory} {events past before since : List Event} {event : Event}
  {id : Handle} {name text topic : String} {c c' : Channel}

theorem topicsGiven_concat (site : Site) (name : String) (d : Directory) (past : List Event)
    (event : Event) : topicsGiven site name d (past ++ [event]) =
      topicsGiven site name d past ++ ((run site d past).topicGiven? name event).toList := by
  induction past generalizing d with
  | nil => simp only [List.nil_append, topicsGiven, List.append_nil, run, List.foldl_nil]
  | cons first past ih =>
    rw [List.cons_append, topicsGiven, topicsGiven, ih, List.append_assoc, run, run,
      List.foldl_cons]

theorem topicGiven?_line_eq_some_iff : d.topicGiven? name (.line id text) = some topic ↔
    d.IsMember id name ∧ Request.SetsTopic text name topic := by
  rw [Directory.topicGiven?, Option.ite_none_right_eq_some, Request.topicGiven?_eq_some_iff]

/-- After a line, the topic is the one that the line gave if it gave one, and the one before
otherwise. -/
theorem topic_receive (site : Site) (hd : d.Sound) (hc : d.channel? name = some c)
    (hc' : (receive site d id text).1.channel? name = some c') :
    c'.topic = (d.topicGiven? name (.line id text)).getD c.topic := by
  cases hgiven : d.topicGiven? name (.line id text) with
  | some topic =>
    obtain ⟨hmember, hsaid⟩ := topicGiven?_line_eq_some_iff.mp hgiven
    rw [receive_setsTopic site hd hmember hc hsaid] at hc'
    cases hc'
    rfl
  | none =>
    by_contra hne
    obtain ⟨hsaid, n, hn, hm⟩ := (receive_touch site hd.admissible id text name).topic hc hc' hne
    rw [topicGiven?_line_eq_some_iff.mpr ⟨⟨n, c, hn, hc, hm⟩, hsaid⟩] at hgiven
    cases hgiven

/-- So it is after any event. -/
theorem topic_step (site : Site) (hd : d.Sound) (hc : d.channel? name = some c)
    (hc' : (step site d event).1.channel? name = some c') :
    c'.topic = (d.topicGiven? name event).getD c.topic := by
  cases event with
  | connect id =>
    cases hc.symm.trans (channel?_openSession.symm.trans hc')
    rfl
  | line id text => exact topic_receive site hd hc hc'
  | drop id =>
    rw [step, drop_directory, channel?_closeSession_eq_leftBy, hc] at hc'
    cases hn : d.nickname? id with
    | none =>
      rw [hn] at hc'
      cases hc'
      rfl
    | some n =>
      rw [hn] at hc'
      obtain ⟨rfl, -⟩ := leave?_eq_some_iff.mp hc'
      rfl

/-- A channel that is still there has been there since the same line. -/
theorem StandsSince.concat (h : StandsSince site name before id text since)
    (hnow : (run site .empty (before ++ .line id text :: (since ++ [event]))).channel? name ≠
      none) :
    StandsSince site name before id text (since ++ [event]) where
  said := h.said
  absent := h.absent
  stays between hbetween := by
    rcases List.prefix_concat_iff.mp hbetween with rfl | hbetween
    · exact hnow
    · exact h.stays between hbetween

/-- The topic of a channel is the last one that it was given since it came. -/
theorem topic_of_run (site : Site) (fresh : FreshHandles events)
    (hc : (run site .empty events).channel? name = some c) :
    ∃ before id text since, events = before ++ .line id text :: since ∧
      StandsSince site name before id text since ∧
      c.topic = (topicsGiven site name (run site .empty (before ++ [.line id text]))
        since).getLast?.getD "" := by
  induction events using List.reverseRecOn generalizing c with
  | nil => cases channel?_empty.symm.trans hc
  | append_singleton past event ih =>
    have hd : (run site .empty past).Sound := run_sound site fresh.past_of_append
    have hstep := hc
    rw [run_concat] at hstep
    cases hbefore : (run site .empty past).channel? name with
    | none =>
      obtain ⟨id, text, n, rfl, hsaid, rfl⟩ := exists_line_of_appears site fresh hbefore hstep
      refine ⟨past, id, text, [], rfl, ⟨hsaid, hbefore, fun between hbetween => ?_⟩, rfl⟩
      rw [List.prefix_nil.mp hbetween, hc]
      exact Option.some_ne_none _
    | some earlier =>
      obtain ⟨before, id, text, since, rfl, hstands, htopic⟩ := ih fresh.past_of_append hbefore
      have hevents : before ++ .line id text :: since ++ [event] =
          before ++ .line id text :: (since ++ [event]) := by
        rw [List.append_assoc, List.cons_append]
      have hnow : (run site .empty (before ++ .line id text :: (since ++ [event]))).channel? name ≠
          none := by
        rw [← hevents, hc]
        exact Option.some_ne_none c
      refine ⟨before, id, text, since ++ [event], hevents, hstands.concat hnow, ?_⟩
      have hpast : run site (run site .empty (before ++ [.line id text])) since =
          run site .empty (before ++ .line id text :: since) := by
        rw [← run_append, List.append_assoc, List.singleton_append]
      rw [topic_step site hd hbefore hstep, topicsGiven_concat, hpast, htopic]
      cases (run site .empty (before ++ .line id text :: since)).topicGiven? name event with
      | some topic =>
        rw [Option.toList_some, List.getLast?_concat, Option.getD_some, Option.getD_some]
      | none => rw [Option.toList_none, List.append_nil, Option.getD_none]

end Runs

/-- The topic of a channel is the last one set since it came, by somebody who was on it then, and
empty if there was none. Whoever asks, being on the channel, and whoever comes in is told it,
and whoever is not on the channel changes nothing with a request about it. -/
theorem topic_is_last_set (site : Site) {events : List Event} (fresh : FreshHandles events) :
    let d := run site .empty events
    (∀ name c, d.channel? name = some c →
        ∃ before id text since, events = before ++ .line id text :: since ∧
          StandsSince site name before id text since ∧
          c.topic = (topicsGiven site name (run site .empty (before ++ [.line id text]))
            since).getLast?.getD "") ∧
      (∀ name, Names.isChannelName name = true → Request.AsksTopic ("TOPIC " ++ name) name ∧
        ∀ text, OneLine text → Request.SetsTopic ("TOPIC " ++ name ++ " :" ++ text) name text) ∧
      (∀ id name c, d.IsMember id name → d.channel? name = some c → ∀ text,
        (∀ topic, Request.SetsTopic text name topic →
          (step site d (.line id text)).1.channel? name = some { c with topic := topic }) ∧
        (Request.AsksTopic text name → ∃ nickname, d.nickname? id = some nickname ∧
          (step site d (.line id text)).1 = d ∧
          (step site d (.line id text)).2.map (Outgoing.map Message.render) =
            [told site id (if c.topic = ""
              then "331 " ++ nickname ++ " " ++ name ++ " :No topic is set"
              else "332 " ++ nickname ++ " " ++ name ++ " :" ++ c.topic)])) ∧
      ∀ id name, ¬d.IsMember id name → ∀ text,
        let effect := step site d (.line id text)
        (∀ tail, Request.Gives text .topic tail → (Words.split tail).1 = name → effect.1 = d) ∧
        (Request.Joins text name → effect.1.IsMember id name →
          ∀ c, effect.1.channel? name = some c →
            ∃ nickname username hostname, d.nickname? id = some nickname ∧
              effect.2.map (Outgoing.map Message.render) =
                Outgoing.sendAll (effect.1.recipients c none) (":" ++ nickname ++ "!" ++ username ++
                    "@" ++ hostname ++ " JOIN " ++ name ++ "\r\n") ++
                  [told site id (if c.topic = ""
                      then "331 " ++ nickname ++ " " ++ name ++ " :No topic is set"
                      else "332 " ++ nickname ++ " " ++ name ++ " :" ++ c.topic),
                    told site id ("353 " ++ nickname ++ " = " ++ name ++ " :" ++ c.namesList),
                    told site id ("366 " ++ nickname ++ " " ++ name ++
                      " :End of /NAMES list")]) := by
  intro d
  have hd : d.Sound := run_sound site fresh
  refine ⟨fun name c hc => topic_of_run site fresh hc, fun name hname => ?_, ?_, ?_⟩
  · exact ⟨Request.asksTopic_name hname, fun text => Request.setsTopic_freeText hname⟩
  · intro id name c hmember hc text
    refine ⟨fun topic hsaid => receive_setsTopic site hd hmember hc hsaid, fun hsaid => ?_⟩
    obtain ⟨nickname, hnick, he⟩ := receive_asksTopic site hd hmember hc hsaid
    rw [step, he]
    exact ⟨nickname, hnick, rfl, congrArg (· :: []) (map_render_topicReply site id nickname name _)⟩
  · intro id name hout text effect
    constructor
    · intro tail hgives hsplit
      exact receive_topic_of_outsider site hd hgives hsplit hout
    · intro hsaid hin c hc
      exact receive_joins_told site hd hsaid hout hin hc

/-- At the gathering bob and zoe set a topic in turn, and eve tries to, who is not on the
channel. Then bob takes another nickname, and zoe is gone. -/
def debate : List Event :=
  gathering ++
    [.line 2 "TOPIC #lean :tea", .line 1 "TOPIC #lean :: two  spaces ",
      .line 4 "TOPIC #lean :coffee", .line 2 "NICK bill", .drop 1]

/-- Zoe's topic is still there, and bob is told it when he asks and may clear it. Eve cannot
change it until she comes in, and is told it then. -/
theorem topic_is_last_set_debate :
    let d := run .sample .empty debate
    let asked := step .sample d (.line 2 ("TOPIC " ++ "#lean"))
    let cleared := step .sample d (.line 2 ("TOPIC " ++ "#lean" ++ " :" ++ ""))
    let joined := step .sample d (.line 4 "JOIN #lean")
    FreshHandles debate ∧ Names.isChannelName "#lean" = true ∧ d.IsMember 2 "#lean" ∧
      ¬d.IsMember 4 "#lean" ∧ joined.1.IsMember 4 "#lean" ∧
      asked.1 = d ∧ asked.2.map (Outgoing.map Message.render) =
        [told .sample 2 "332 bill #lean :: two  spaces "] ∧
      (∃ c, cleared.1.channel? "#lean" = some c ∧ c.topic = "") ∧
      (step .sample d (.line 4 ("TOPIC " ++ "#lean" ++ " :" ++ "coffee"))).1 = d ∧
      joined.2.map (Outgoing.map Message.render) =
        Outgoing.sendAll [3, 2, 4] ":eve!eve@host JOIN #lean\r\n" ++
          [told .sample 4 "332 eve #lean :: two  spaces ",
            told .sample 4 "353 eve = #lean :ann bill eve",
            told .sample 4 "366 eve #lean :End of /NAMES list"] := by
  intro d asked cleared joined
  have fresh : FreshHandles debate := by decide
  have hname : Names.isChannelName "#lean" = true := by decide
  -- the run is evaluated once for all that is read off it
  obtain ⟨hbill, hmember, hout, htopic, hin, hjoined⟩ :
      d.nickname? 2 = some "bill" ∧ d.IsMember 2 "#lean" ∧ ¬d.IsMember 4 "#lean" ∧
        (d.channel? "#lean").map Channel.topic = some ": two  spaces " ∧
        joined.1.IsMember 4 "#lean" ∧
        joined.2.map (Outgoing.map Message.render) =
          Outgoing.sendAll [3, 2, 4] ":eve!eve@host JOIN #lean\r\n" ++
            [told .sample 4 "332 eve #lean :: two  spaces ",
              told .sample 4 "353 eve = #lean :ann bill eve",
              told .sample 4 "366 eve #lean :End of /NAMES list"] := by
    decide +kernel
  obtain ⟨c, hc, htopic⟩ := Option.map_eq_some_iff.mp htopic
  obtain ⟨-, hread, hmembers, houtsiders⟩ := topic_is_last_set .sample fresh
  obtain ⟨hasks, hsets⟩ := hread "#lean" hname
  obtain ⟨-, hanswer⟩ := hmembers 2 "#lean" c hmember hc ("TOPIC " ++ "#lean")
  obtain ⟨nickname, hnick, hsame, htold⟩ := hanswer hasks
  cases hbill.symm.trans hnick
  rw [htopic] at htold
  have hcleared := (hmembers 2 "#lean" c hmember hc _).1 "" (hsets "" (by decide))
  obtain ⟨tail, hgives, hsplit, -⟩ := hsets "coffee" (by decide)
  have hcoffee := (houtsiders 4 "#lean" hout _).1 tail hgives hsplit
  exact ⟨fresh, hname, hmember, hout, hin, hsame, htold, ⟨_, hcleared, rfl⟩, hcoffee, hjoined⟩

end Relay

end RelayChat
