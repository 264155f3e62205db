import RelayChat.Proofs.ChannelDelivery
import RelayChat.Proofs.SoundStates

/-!
# Lines that do not depend on each other

What a line does is determined by three things: the session of its sender, the holders of
nicknames, and the one channel that it names. Directories that show the same of these are
`Alike` for the line, and the commands are gone through to see that nothing else is looked
at. Conversely a line that is no change of nickname leaves all holders, all other sessions
and all other channels as they are.

So two such lines of two connections have nothing to do with each other unless they name
the same channel, and it does not matter which of them comes first
(`Relay.lines_commute`).
-/

namespace RelayChat

open Directory

/-! ## The channel that a line names -/

/-- What a command names that is about a channel or goes to one. -/
def Verb.target? (tail : String) : Verb → Option String
  | .join => some (Words.firstParameter tail)
  | .part | .topic | .privmsg => some (Words.split tail).1
  | _ => none

namespace Request

/-- What a line names as a channel, or as one to whom its text goes. -/
def target? (text : String) : Option String :=
  (parse? text).bind fun request => request.verb.target? request.tail

/-- The channel that a line names by coming in, leaving, its topic or a text for it. -/
def channelNamed? (text : String) : Option String :=
  (target? text).filter Names.isChannelName

variable {text name : String}

theorem channelNamed?_eq_some_iff :
    channelNamed? text = some name ↔ target? text = some name ∧ Names.isChannelName name = true :=
  Option.filter_eq_some_iff

theorem target?_of_parse? {request : Request} (h : parse? text = some request) :
    target? text = request.verb.target? request.tail := by
  rw [target?, h, Option.bind_some]

end Request

/-! ## What a line looks at -/

/-- Two directories that show the same to a line of connection `id` about `target`. -/
structure Directory.Alike (id : Handle) (target : Option String) (d d' : Directory) : Prop where
  /-- The connection has the same session. -/
  session : d'.session? id = d.session? id
  /-- Nicknames have the same holders. -/
  holder : ∀ n, d'.holder? n = d.holder? n
  /-- The channel is the same. -/
  channel : ∀ name, target = some name → d'.channel? name = d.channel? name

/-- Two outcomes of a command of connection `id` about `target` that are the same to it. -/
structure Outcome.Alike (id : Handle) (target : Option String) (o o' : Outcome) : Prop where
  /-- The directories show the same. -/
  directory : Directory.Alike id target o.directory o'.directory
  /-- The same calls are made. -/
  calls : o'.calls = o.calls
  /-- The command is refused for the same reason, or carried out both times. -/
  refusal : o'.refusal = o.refusal

section Alike

variable {site : Site} {d d' : Directory} {id : Handle} {target : Option String} {tail : String}
  {calls calls' : List (Outgoing Message)}

namespace Directory.Alike

theorem address (h : Alike id target d d') : d'.address id = d.address id :=
  address_congr h.session

theorem origin (h : Alike id target d d') : d'.origin id = d.origin id :=
  origin_congr h.session

theorem isLoggedIn (h : Alike id target d d') : d'.isLoggedIn id = d.isLoggedIn id :=
  isLoggedIn_congr h.session

theorem recipients (h : Alike id target d d') (c : Channel) (without : Option Handle) :
    d'.recipients c without = d.recipients c without :=
  recipients_congr h.holder c without

/-! The changes that a command makes keep directories alike. -/

theorem updateSession (h : Alike id target d d') (f : Session → Session) :
    Alike id target (d.updateSession id f) (d'.updateSession id f) where
  session := by rw [session?_updateSession, session?_updateSession, h.session]
  holder := h.holder
  channel := h.channel

theorem putChannel (h : Alike id target d d') (c : Channel) :
    Alike id target (d.putChannel c) (d'.putChannel c) where
  session := h.session
  holder := h.holder
  channel name hname := by rw [channel?_putChannel, channel?_putChannel, h.channel name hname]

theorem updateChannel (h : Alike id target d d') (name : String) (f : Channel → Channel) :
    Alike id target (d.updateChannel name f) (d'.updateChannel name f) where
  session := h.session
  holder := h.holder
  channel other hother := by
    rw [channel?_updateChannel, channel?_updateChannel, h.channel other hother]
    split
    · rename_i he
      rw [he, h.channel other hother]
    · rfl

theorem leaveChannel (h : Alike id target d d') (name n : String) :
    Alike id target (d.leaveChannel name n) (d'.leaveChannel name n) where
  session := h.session
  holder := h.holder
  channel other hother := by
    rw [channel?_leaveChannel, channel?_leaveChannel, h.channel other hother]
    split
    · rename_i he
      rw [he, h.channel other hother]
    · rfl

theorem logIn (h : Alike id target d d') :
    Alike id target (Registration.logIn site d id).1 (Registration.logIn site d' id).1 ∧
      (Registration.logIn site d' id).2 = (Registration.logIn site d id).2 := by
  unfold Registration.logIn
  rw [h.session]
  cases d.session? id with
  | none => exact ⟨h, rfl⟩
  | some s =>
    dsimp only
    split
    · exact ⟨h, rfl⟩
    · exact ⟨h.updateSession _, rfl⟩

end Directory.Alike

namespace Outcome.Alike

theorem done (h : Directory.Alike id target d d') (hcalls : calls' = calls) :
    Alike id target (.done d calls) (.done d' calls') := ⟨h, hcalls, rfl⟩

theorem refused (h : Directory.Alike id target d d') (refusal : Refusal) :
    Alike id target (.refused d refusal) (.refused d' refusal) := ⟨h, rfl, rfl⟩

end Outcome.Alike

/-! ### Commands of the handshake -/

theorem Registration.pass_alike (h : Directory.Alike id target d d') :
    Outcome.Alike id target (pass site d id tail) (pass site d' id tail) := by
  unfold pass
  rw [h.isLoggedIn]
  split
  · exact .refused h _
  · split
    · exact .done (h.updateSession _) rfl
    · exact .refused h _

theorem Registration.cap_alike (h : Directory.Alike id target d d') :
    Outcome.Alike id target (cap site d id tail) (cap site d' id tail) := by
  unfold cap
  split
  · exact .done (h.updateSession _) rfl
  · exact .done (h.updateSession _) rfl

theorem Registration.user_alike (h : Directory.Alike id target d d') :
    Outcome.Alike id target (user site d id tail) (user site d' id tail) := by
  unfold user
  rw [h.isLoggedIn, h.session]
  dsimp only
  split
  · exact .refused h _
  · split
    · exact .refused h _
    · cases d.session? id with
      | none => exact .done h rfl
      | some s =>
        obtain ⟨hafter, hcalls⟩ := (h.updateSession fun s =>
          { s with username := some (Words.split tail).1,
                   hostname := some (Words.split (Words.split tail).2).1 }).logIn
        dsimp only
        split
        · exact .done hafter hcalls
        · exact ⟨hafter, hcalls, rfl⟩

/-! ### Commands on channels -/

theorem ChannelCommands.announceJoin_alike (h : Directory.Alike id target d d') (c : Channel)
    (name : String) : announceJoin site d' id c name = announceJoin site d id c name := by
  rw [announceJoin, h.address, h.origin, h.recipients, announceJoin]

theorem ChannelCommands.join_alike (h : Directory.Alike id (Verb.target? tail .join) d d') :
    Outcome.Alike id (Verb.target? tail .join) (join site d id tail) (join site d' id tail) := by
  unfold join
  dsimp only
  rw [h.address, h.channel _ rfl]
  split
  · exact .refused h _
  · split
    · exact .refused h _
    · cases d.channel? (Words.firstParameter tail) with
      | none =>
        have hcreated := h.putChannel (.create (Words.firstParameter tail) (d.address id))
        exact .done hcreated (announceJoin_alike hcreated _ _)
      | some c =>
        have hjoined := h.updateChannel (Words.firstParameter tail) fun _ => c.add (d.address id)
        dsimp only
        split
        · exact .done h rfl
        · exact .done hjoined (announceJoin_alike hjoined _ _)

theorem ChannelCommands.part_alike (h : Directory.Alike id (Verb.target? tail .part) d d') :
    Outcome.Alike id (Verb.target? tail .part) (part d id tail) (part d' id tail) := by
  unfold part
  dsimp only
  rw [h.address, h.origin, h.channel _ rfl]
  split
  · exact .refused h _
  · cases d.channel? (Words.split tail).1 with
    | none => exact .refused h _
    | some c =>
      dsimp only
      split
      · exact .refused h _
      · exact .done (h.leaveChannel _ _) (by rw [h.recipients])

theorem ChannelCommands.topic_alike (h : Directory.Alike id (Verb.target? tail .topic) d d') :
    Outcome.Alike id (Verb.target? tail .topic) (topic site d id tail)
      (topic site d' id tail) := by
  unfold topic
  dsimp only
  rw [h.address, h.origin, h.channel _ rfl]
  split
  · exact .refused h _
  · cases d.channel? (Words.split tail).1 with
    | none => exact .refused h _
    | some c =>
      dsimp only
      split
      · exact .refused h _
      · split
        · exact .done h rfl
        · exact .done (h.updateChannel _ _) (by rw [h.recipients])

/-! ### All commands -/

theorem Conversation.privmsg_alike (h : Directory.Alike id (Verb.target? tail .privmsg) d d') :
    Outcome.Alike id (Verb.target? tail .privmsg) (privmsg d id tail) (privmsg d' id tail) := by
  unfold privmsg
  dsimp only
  rw [h.address, h.origin, h.holder, h.channel _ rfl]
  split
  · exact .refused h _
  · split
    · exact .refused h _
    · split
      · cases d.holder? (Words.split tail).1 with
        | none => exact .refused h _
        | some holder => exact .done h rfl
      · cases d.channel? (Words.split tail).1 with
        | none => exact .refused h _
        | some c =>
          dsimp only
          split
          · exact .refused h _
          · exact .done h (by rw [h.recipients])

theorem Conversation.ping_alike (h : Directory.Alike id target d d') :
    Outcome.Alike id target (ping site d id tail) (ping site d' id tail) := by
  unfold ping
  dsimp only
  split
  · exact .refused h _
  · exact .done h rfl

namespace Dispatch

variable {verb : Verb}

/-- Every command but a change of nickname looks at these three things only. -/
theorem attempt_alike (hverb : verb ≠ .nick)
    (h : Directory.Alike id (verb.target? tail) d d') :
    Outcome.Alike id (verb.target? tail) (attempt site d id tail verb)
      (attempt site d' id tail verb) := by
  -- opened here, so that the commands need not be found again in every case
  unfold attempt perform
  rw [h.isLoggedIn]
  split
  · exact .refused h _
  · cases verb with
    | pass => exact Registration.pass_alike h
    | cap => exact Registration.cap_alike h
    | nick => exact absurd rfl hverb
    | user => exact Registration.user_alike h
    | join => exact ChannelCommands.join_alike h
    | part => exact ChannelCommands.part_alike h
    | topic => exact ChannelCommands.topic_alike h
    | privmsg => exact Conversation.privmsg_alike h
    | quit => exact .done (h.updateSession _) rfl
    | ping => exact Conversation.ping_alike h
    | mode => exact .done h rfl
    | invite => exact .done h rfl
    | kick => exact .done h rfl
    | unknown => exact .done h rfl

/-- What follows a command is determined by its outcome. -/
theorem conclude_alike {o o' : Outcome} (h : Outcome.Alike id target o o') :
    Directory.Alike id target (conclude site id verb o).1 (conclude site id verb o').1 ∧
      (conclude site id verb o').2 = (conclude site id verb o).2 := by
  unfold conclude
  rw [h.refusal, h.calls]
  dsimp only
  cases o.refusal with
  | some refusal =>
    rw [h.directory.address]
    exact ⟨h.directory, rfl⟩
  | none =>
    obtain ⟨hafter, hgreeting⟩ : Directory.Alike id target
        (Registration.logIn site o.directory id).1 (Registration.logIn site o'.directory id).1 ∧
          (Registration.logIn site o'.directory id).2 =
            (Registration.logIn site o.directory id).2 := h.directory.logIn
    dsimp only
    split
    · exact ⟨hafter, congrArg (o.calls ++ ·) hgreeting⟩
    · exact ⟨h.directory, rfl⟩

end Dispatch

/-- A line that is no change of nickname does the same to directories that it cannot tell
apart, and causes the same calls. -/
theorem Relay.receive_alike {text : String}
    (hverb : (Request.parse? text).map Request.verb ≠ some .nick)
    (h : Directory.Alike id (Request.target? text) d d') :
    Directory.Alike id (Request.target? text) (receive site d id text).1
        (receive site d' id text).1 ∧
      (receive site d' id text).2 = (receive site d id text).2 := by
  unfold receive
  rw [h.session]
  cases d.session? id with
  | none => exact ⟨h, rfl⟩
  | some s =>
    dsimp only
    cases hparse : Request.parse? text with
    | none =>
      rw [Dispatch.line, Dispatch.line, hparse]
      exact ⟨h, rfl⟩
    | some request =>
      rw [hparse, Option.map_some, Ne, Option.some.injEq] at hverb
      by_cases hknown : request.verb = .unknown
      · rw [Dispatch.line, Dispatch.line, hparse]
        dsimp only
        rw [hknown]
        exact ⟨h, rfl⟩
      · rw [Dispatch.line_of_request site d id hparse hknown,
          Dispatch.line_of_request site d' id hparse hknown]
        rw [Request.target?_of_parse? hparse] at h ⊢
        exact Dispatch.conclude_alike (Dispatch.attempt_alike hverb h)

end Alike

/-! ## What a line leaves alone -/

/-- All that has changed between two directories is the session of connection `id` and the
channel `target`. -/
structure Directory.Spares (id : Handle) (target : Option String) (d d' : Directory) : Prop where
  /-- All others have the sessions that they had. -/
  session : ∀ k, k ≠ id → d'.session? k = d.session? k
  /-- Nicknames have the holders that they had. -/
  holder : ∀ n, d'.holder? n = d.holder? n
  /-- All other channels are as they were. -/
  channel : ∀ name, target ≠ some name → d'.channel? name = d.channel? name

section Spares

variable {site : Site} {d : Directory} {id : Handle} {tail : String} {verb : Verb}
  {outcome : Outcome} {n name : String}

namespace Dispatch

/-- Only a change of nickname concerns the holders. -/
theorem Effect.holder?_eq (h : Effect site d id tail verb outcome) (hverb : verb ≠ .nick) :
    outcome.directory.holder? n = d.holder? n := by
  cases h with
  | nickname => exact absurd rfl hverb
  | named => exact Registration.holder?_logIn.trans holder?_updateSession
  | _ => rfl

/-- Every other command concerns no channel but the one that it names. -/
theorem Effect.channel?_eq (h : Effect site d id tail verb outcome) (hverb : verb ≠ .nick)
    (hname : verb.target? tail ≠ some name) :
    outcome.directory.channel? name = d.channel? name := by
  have hother : ∀ {other}, verb.target? tail = some other → other ≠ name :=
    fun htarget he => hname (htarget.trans (congrArg some he))
  cases h with
  | nickname => exact absurd rfl hverb
  | named => exact Registration.channel?_logIn.trans channel?_updateSession
  | joined => exact channel?_updateChannel.trans (if_neg (hother rfl))
  | created => exact channel?_putChannel.trans (if_neg (hother rfl))
  | left => exact channel?_leaveChannel.trans (if_neg (hother rfl))
  | topicSet => exact channel?_updateChannel.trans (if_neg (hother rfl))
  | _ => rfl

/-- What follows a command concerns no holder and no channel. -/
theorem conclude_lookups (site : Site) (id : Handle) (verb : Verb) (outcome : Outcome) :
    (∀ n, (conclude site id verb outcome).1.holder? n = outcome.directory.holder? n) ∧
      ∀ name, (conclude site id verb outcome).1.channel? name =
        outcome.directory.channel? name := by
  rcases conclude_cases site id verb outcome with ⟨_, -, he⟩ | ⟨-, -, he⟩ | ⟨-, -, he⟩
  · rw [he]
    exact ⟨fun _ => rfl, fun _ => rfl⟩
  · rw [he]
    exact ⟨fun _ => Registration.holder?_logIn, fun _ => Registration.channel?_logIn⟩
  · rw [he]
    exact ⟨fun _ => rfl, fun _ => rfl⟩

end Dispatch

/-- A line that is no change of nickname leaves everything else as it was. -/
theorem Relay.receive_spares (site : Site) (d : Directory) (id : Handle) {text : String}
    (hverb : (Request.parse? text).map Request.verb ≠ some .nick) :
    Directory.Spares id (Request.target? text) d (receive site d id text).1 := by
  have hsession : ∀ k, k ≠ id → (receive site d id text).1.session? k = d.session? k :=
    fun k hk => session?_of_changes_ne (receive_changes site d id text) hk.symm
  rcases receive_effect site d id text with he | ⟨s, request, outcome, -, hparse, heffect, he⟩
  · rw [he]
    exact ⟨fun _ _ => rfl, fun _ => rfl, fun _ _ => rfl⟩
  · rw [hparse, Option.map_some, Ne, Option.some.injEq] at hverb
    obtain ⟨hholder, hchannel⟩ := Dispatch.conclude_lookups site id request.verb outcome
    refine ⟨hsession, ?_, ?_⟩
    · rw [he]
      exact fun n => (hholder n).trans (heffect.holder?_eq hverb)
    · rw [he, Request.target?_of_parse? hparse]
      exact fun name hname => (hchannel name).trans (heffect.channel?_eq hverb hname)

end Spares

/-! ## Two lines -/

section Two

variable {d d' : Directory} {a b : Handle} {x y : String}

/-- Two lines that do not name the same channel. -/
def Request.Apart (x y : String) : Prop :=
  ∀ name, channelNamed? x = some name → channelNamed? y ≠ some name

theorem Request.Apart.symm (h : Request.Apart x y) : Request.Apart y x :=
  fun name hy hx => h name hx hy

/-- What both of them name as a channel cannot be one. -/
theorem Request.Apart.invalid {name : String} (h : Request.Apart x y)
    (hx : target? x = some name) (hy : target? y = some name) :
    ¬Names.isChannelName name = true := fun hvalid =>
  h name (channelNamed?_eq_some_iff.mpr ⟨hx, hvalid⟩) (channelNamed?_eq_some_iff.mpr ⟨hy, hvalid⟩)

namespace Directory

/-- What one line leaves alone includes all that the other one looks at. -/
theorem Spares.alike (h : Spares b (Request.target? y) d d') (hab : a ≠ b)
    (hapart : Request.Apart x y) (hd : d.Sound) (hd' : d'.Sound) :
    Alike a (Request.target? x) d d' where
  session := h.session a hab
  holder := h.holder
  channel name hx := by
    by_cases hy : Request.target? y = some name
    · have hinvalid := hapart.invalid hx hy
      rw [hd'.channel?_of_invalid hinvalid, hd.channel?_of_invalid hinvalid]
    · exact h.channel name hy

/-- Two lines that do not name the same channel and do not change what the other one looks
at have the same result in either order. Every look-up is the first line's to change, or
the second's, or nobody's. -/
theorem Spares.square {da db dab dba : Directory} (hab : a ≠ b) (hapart : Request.Apart x y)
    (hsound : dab.Sound) (hsound' : dba.Sound)
    (ha : Spares a (Request.target? x) d da) (hb : Spares b (Request.target? y) d db)
    (hthenB : Spares b (Request.target? y) da dab) (hthenA : Spares a (Request.target? x) db dba)
    (hsameA : Alike a (Request.target? x) da dba) (hsameB : Alike b (Request.target? y) db dab) :
    dab = dba := by
  refine ext_lookups (fun k => ?_) (fun n => ?_) fun name => ?_
  -- a session is for its own connection to change
  · by_cases hka : k = a
    · subst hka
      rw [hthenB.session k hab, hsameA.session]
    · by_cases hkb : k = b
      · subst hkb
        rw [hsameB.session, hthenA.session k hka]
      · rw [hthenB.session k hkb, ha.session k hka, hthenA.session k hka, hb.session k hkb]
  · rw [hthenB.holder, ha.holder, hthenA.holder, hb.holder]
  -- a channel is for the line that names it to change, and if both do it cannot be one
  · by_cases hx : Request.target? x = some name
    · by_cases hy : Request.target? y = some name
      · have hinvalid := hapart.invalid hx hy
        rw [hsound.channel?_of_invalid hinvalid, hsound'.channel?_of_invalid hinvalid]
      · rw [hthenB.channel name hy, hsameA.channel name hx]
    · by_cases hy : Request.target? y = some name
      · rw [hsameB.channel name hy, hthenA.channel name hx]
      · rw [hthenB.channel name hy, ha.channel name hx, hthenA.channel name hx,
          hb.channel name hy]

end Directory

end Two

namespace Relay

/-- Two lines of two connections may come in either order, in every state that a run reaches, if
neither is a change of nickname and they do not both name the same channel by coming in,
leaving, a topic or a text: the directory is the same then, and so are the calls of each. -/
theorem lines_commute (site : Site) {events : List Event} (fresh : FreshHandles events)
    {a b : Handle} (hab : a ≠ b) {x y : String}
    (hx : (Request.parse? x).map Request.verb ≠ some .nick)
    (hy : (Request.parse? y).map Request.verb ≠ some .nick)
    (hapart : ∀ name, Request.channelNamed? x = some name → Request.channelNamed? y ≠ some name) :
    let d := run site .empty events
    let first := step site d (.line a x)
    let first' := step site d (.line b y)
    let second := step site first.1 (.line b y)
    let second' := step site first'.1 (.line a x)
    second.1 = second'.1 ∧ second'.2 = first.2 ∧ second.2 = first'.2 := by
  intro d first first' second second'
  have hapart : Request.Apart x y := hapart
  have hd : d.Sound := run_sound site fresh
  have hfirst : first.1.Sound := sound_receive hd site a x
  have hfirst' : first'.1.Sound := sound_receive hd site b y
  have ha : Spares a (Request.target? x) d first.1 := receive_spares site d a hx
  have hb : Spares b (Request.target? y) d first'.1 := receive_spares site d b hy
  obtain ⟨hsameA, hcallsA⟩ := receive_alike hx (hb.alike hab hapart hd hfirst')
  obtain ⟨hsameB, hcallsB⟩ :=
    receive_alike hy (ha.alike hab.symm hapart.symm hd hfirst)
  refine ⟨?_, hcallsA, hcallsB⟩
  exact Spares.square hab hapart (sound_receive hfirst site b y) (sound_receive hfirst' site a x)
    ha hb (receive_spares site first.1 b hy) (receive_spares site first'.1 a hx) hsameA hsameB

/-- The gathering, and one more who has only to say who he is to be logged in. -/
def latecomer : List Event :=
  gathering ++ [.connect 5, .line 5 "PASS secret", .line 5 "NICK dan"]

/-- The latecomer is logged in while zoe leaves the channel, and gets his four greetings
before or after that. The three who are on the channel hear of her leaving in either case. -/
theorem lines_commute_latecomer :
    let d := run .sample .empty latecomer
    let named := step .sample d (.line 5 "USER dan host")
    let left := step .sample d (.line 1 "PART #lean")
    FreshHandles latecomer ∧ named.2.length = 4 ∧ left.2.length = 3 ∧
      (step .sample named.1 (.line 1 "PART #lean")).1 =
        (step .sample left.1 (.line 5 "USER dan host")).1 ∧
      (step .sample left.1 (.line 5 "USER dan host")).2 = named.2 ∧
      (step .sample named.1 (.line 1 "PART #lean")).2 = left.2 := by
  intro d named left
  have fresh : FreshHandles latecomer := by decide
  have huser : (Request.parse? "USER dan host").map Request.verb ≠ some .nick := by decide +kernel
  have hpart : (Request.parse? "PART #lean").map Request.verb ≠ some .nick := by decide +kernel
  have hnone : Request.channelNamed? "USER dan host" = none := by decide +kernel
  have hfour : named.2.length = 4 := by decide +kernel
  have hthree : left.2.length = 3 := by decide +kernel
  exact ⟨fresh, hfour, hthree, lines_commute .sample fresh (by decide) huser hpart
    fun name hname => by rw [hnone] at hname; cases hname⟩

end Relay

end RelayChat
