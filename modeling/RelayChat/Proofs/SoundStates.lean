import RelayChat.Proofs.ChannelRegistry

/-!
# Sound states

What holds of the directory at every point of a run: sessions and holders agree, every
session is admissible, and every channel is as it should be. From the three together it
follows that whoever is not logged in is on no channel, and that whoever is logged in has
all three names of a signature.
-/

namespace RelayChat

/-- A session that has all three names signs with them. -/
theorem Session.origin_of_names {s : Session} {nickname username hostname : String}
    (hnickname : s.nickname = some nickname) (husername : s.username = some username)
    (hhostname : s.hostname = some hostname) : s.origin = .user nickname username hostname := by
  rw [origin, address, hnickname, husername, hhostname, Option.getD_some, Option.getD_some,
    Option.getD_some]

namespace Directory

/-- A state that a run can reach. -/
structure Sound (d : Directory) : Prop where
  /-- Sessions and holders agree. -/
  agree : d.NicknamesAgree
  /-- Every session is admissible. -/
  admissible : d.SessionsAdmissible
  /-- Every channel is as it should be. -/
  channels : d.ChannelsSound

variable {d d' : Directory} {id k : Handle} {name n new : String} {c : Channel} {s : Session}

/-- Every elementary change leaves a sound state. -/
theorem Sound.change (hd : d.Sound) (h : Change id d d') : d'.Sound where
  agree := hd.agree.change h
  admissible := hd.admissible.change h
  channels := hd.channels.change hd.agree hd.admissible h

/-- So does a connection that goes. -/
theorem Sound.closeSession (hd : d.Sound) : (d.closeSession id).Sound where
  agree := hd.agree.closeSession
  admissible := hd.admissible.closeSession
  channels := hd.channels.closeSession

/-- There is no channel of a name that none can have. -/
theorem Sound.channel?_of_invalid (hd : d.Sound) (h : ¬Names.isChannelName name = true) :
    d.channel? name = none :=
  Option.eq_none_iff_forall_ne_some.mpr fun c hc => h (hd.channels name c hc).valid

/-- Whoever is not logged in is on no channel. -/
theorem Sound.not_mem_of_not_loggedIn (hd : d.Sound) (hs : d.session? k = some s)
    (hn : s.nickname = some n) (hout : s.loggedIn = false) (hc : d.channel? name = some c) :
    n ∉ c.members := by
  intro hmem
  obtain ⟨j, hj, hin⟩ := (hd.channels name c hc).users n hmem
  obtain rfl := hd.agree.eq_of_nickname? hj ((nickname?_of_session? hs).trans hn)
  rw [isLoggedIn_of_session? hs, hout] at hin
  cases hin

/-- Nobody is on a channel under a nickname that is free. -/
theorem Sound.not_mem_of_free (hd : d.Sound) (free : d.holder? new = none)
    (hc : d.channel? name = some c) : new ∉ c.members := by
  intro hm
  obtain ⟨k, hk, -⟩ := (hd.channels name c hc).users new hm
  cases free.symm.trans ((hd.agree.holder_iff new k).mpr hk)

/-- Nor is anybody an operator under it. -/
theorem Sound.not_operator_of_free (hd : d.Sound) (free : d.holder? new = none)
    (hc : d.channel? name = some c) : new ∉ c.operators :=
  fun ho => hd.not_mem_of_free free hc ((hd.channels name c hc).operators_sub new ho)

/-- Whoever is logged in has a nickname. -/
theorem Sound.not_loggedIn_of_nickname_eq_none (hd : d.Sound) (hs : d.session? k = some s)
    (hn : s.nickname = none) : s.loggedIn = false := by
  rw [← Bool.not_eq_true]
  intro hin
  have hsome := ((hd.admissible k s hs).of_loggedIn hin).1
  rw [hn] at hsome
  cases hsome

/-- Whoever is logged in signs with the three names of its session, and is addressed by
the first of them. -/
theorem SessionsAdmissible.exists_names (hd : d.SessionsAdmissible) (hs : d.session? k = some s)
    (hin : s.loggedIn = true) :
    ∃ nickname username hostname, s.nickname = some nickname ∧ s.username = some username ∧
      s.hostname = some hostname ∧ d.address k = nickname ∧
      d.origin k = .user nickname username hostname := by
  have hadmissible : s.Admissible := hd k s hs
  obtain ⟨hnickname, husername, -⟩ := hadmissible.of_loggedIn hin
  obtain ⟨nickname, hnickname⟩ := Option.isSome_iff_exists.mp hnickname
  obtain ⟨hostname, hhostname⟩ :=
    Option.isSome_iff_exists.mp (hadmissible.hostname_of_username husername)
  obtain ⟨username, husername⟩ := Option.isSome_iff_exists.mp husername
  have haddress : d.address k = nickname :=
    address_of_nickname? ((nickname?_of_session? hs).trans hnickname)
  have horigin : d.origin k = .user nickname username hostname :=
    (origin_of_session? hs).trans (Session.origin_of_names hnickname husername hhostname)
  exact ⟨nickname, username, hostname, hnickname, husername, hhostname, haddress, horigin⟩

end Directory

/-- Every line leaves a sound state. -/
theorem Relay.sound_receive {d : Directory} (hd : d.Sound) (site : Site) (id : Handle)
    (text : String) : (receive site d id text).1.Sound :=
  Directory.keeps_of_changes (fun h hd => hd.change h) (receive_changes site d id text) hd

/-- Every run reaches only sound states. -/
theorem Relay.run_sound (site : Site) {events : List Event} (fresh : FreshHandles events) :
    (run site .empty events).Sound where
  agree := run_nicknamesAgree site fresh
  admissible := run_sessionsAdmissible site fresh
  channels := run_channelsSound site fresh

end RelayChat
