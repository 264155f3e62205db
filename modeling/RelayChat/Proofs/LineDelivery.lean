import RelayChat.Echo
import RelayChat.Loopback
import RelayChat.Proofs.OwedLines
import RelayChat.Proofs.ReadySockets

/-!
# Delivery of lines

The system gives the bytes of a connection in one series of answers. They are noted piece
by piece, and the lines that a piece completes are dealt with before the next one is taken
in, so that meanwhile some bytes were given and not noted yet. `Hearing` keeps the account
of them: what was noted and what is still pending make up what was given, as long as the
connection is read. Nothing but reading that connection touches the account (`Unheard`),
and when its series is through nothing is pending, unless the connection was asked to be
closed (`readEach_hearing`). A wait asks for the bytes of every connection that is ready
(`wait_reads`). With what is owed of the bytes noted, `lines_delivered` follows for whole
runs.
-/

namespace RelayChat

namespace Multiplexer

open Relation Framer

variable {σ ε : Type} {net : Host ε} {handler : Handler σ} {start : σ}
  {m m' m'' : Multiplexer σ (ε × List Dealing)} {id k : Handle} {c : Connection}
  {pending : List UInt8}

/-! ## What is not heard of a connection -/

/-- Nothing is heard of a connection: the system gives none of its bytes, and none are noted. -/
structure Unheard (id : Handle) (m m' : Multiplexer σ (ε × List Dealing)) : Prop where
  /-- Other things may be noted. -/
  grown : m.journal <:+ m'.journal
  /-- No bytes of the connection are noted. -/
  received : bytesReceived id m'.journal = bytesReceived id m.journal
  /-- The system gives none. -/
  answered : bytesAnswered id m'.host.2 = bytesAnswered id m.host.2

theorem Unheard.refl (id : Handle) (m : Multiplexer σ (ε × List Dealing)) : Unheard id m m :=
  ⟨List.suffix_rfl, rfl, rfl⟩

theorem Unheard.trans (h : Unheard id m m') (h' : Unheard id m' m'') : Unheard id m m'' :=
  ⟨h.grown.trans h'.grown, h'.received.trans h.received, h'.answered.trans h.answered⟩

/-- As long as nothing is read at all, nothing is heard. -/
theorem Unread.unheard (h : Unread m m') (id : Handle) : Unheard id m m' := by
  cases h with
  | still entries log hjournal hstill hlog hwatch =>
    refine ⟨⟨entries, hjournal.symm⟩, ?_, ?_⟩
    · rw [hjournal]
      refine gathered_append_of_nil fun entry hmem => ?_
      have hentry := hstill entry hmem
      cases entry with
      | received => exact hentry.elim
      | raised | called | wrote | writeFailed | closed => rfl
    · rw [hlog]
      refine gathered_append_of_nil fun dealing hmem => ?_
      obtain ⟨k, writes, accepted, rfl⟩ := hwatch dealing hmem
      rfl
  | wrote answers hc hjournal hlog =>
    refine ⟨⟨_, hjournal.symm⟩, ?_, ?_⟩
    · rw [hjournal]
      refine gathered_append_of_nil fun entry hmem => ?_
      rcases mem_notesOf hmem with rfl | rfl <;> rfl
    · rw [hlog]
      exact gathered_cons_of_nil rfl

theorem Calm.unheard (h : Calm m m') (id : Handle) : Unheard id m m' :=
  h.unread.unheard id

theorem unheard_raise (event : Event) : Unheard id m (raise handler m event) :=
  Calm.unheard (Calm.raise (.of_journal rfl rfl) event) id

/-- Lines of any connection may be dealt with. -/
theorem unheard_dispatch (lines : List String) (h : Unheard id m m') :
    Unheard id m (dispatch net.recorded handler k lines m') :=
  dispatch_keeps net.recorded handler (P := Unheard id m)
    (fun _ _ h => h.trans (unheard_raise _)) (fun hchore h => h.trans (hchore.unread.unheard id))
    lines h

/-- Any other connection may be read. -/
theorem unheard_readAll (hk : k ≠ id) : Unheard id m (readAll net.recorded handler m k) := by
  refine readAll_keeps net.recorded handler (P := Unheard id m) k (fun _ h => h.trans ?_)
    (fun bytes hc _ h => ?_) (fun hc _ h => h.trans ((Calm.close hc .readEnded).unheard id))
    (.refl id m)
  · exact ⟨List.suffix_rfl, rfl, gathered_cons_of_nil (if_neg hk)⟩
  · refine unheard_dispatch _ (h.trans ?_)
    exact ⟨List.suffix_cons _ _, gathered_cons_of_nil (if_neg hk), rfl⟩

/-- Of a stage that does not read the connection nothing is heard. -/
theorem Round.unheard (h : Round net.recorded handler m m') (id : Handle) :
    Unheard id m m' ∨ m' = readAll net.recorded handler m id := by
  cases h with
  | asked h => exact Or.inl ((unread_asked h).unheard id)
  | admitted =>
    have hput : Unheard id m
        { m with nextHandle := m.nextHandle + 1,
                 board := m.board.put m.nextHandle Connection.fresh } :=
      ⟨List.suffix_rfl, rfl, rfl⟩
    exact Or.inl (hput.trans (unheard_raise _))
  | skipped => exact Or.inl ⟨List.suffix_rfl, rfl, rfl⟩
  | read k =>
    by_cases hk : k = id
    · exact Or.inr (hk ▸ rfl)
    · exact Or.inl (unheard_readAll hk)
  | closed hc => exact Or.inl ((Calm.close hc _).unheard id)
  | wrote k =>
    refine Or.inl (writeAll_keeps net.recorded handler (P := Unheard id m) k
      (fun hchore h => h.trans (hchore.unread.unheard id)) (fun hc _ h => ?_)
      (fun h => h.trans ⟨List.suffix_rfl, rfl, rfl⟩) (.refl id m))
    exact h.trans ((Calm.close hc .writeFailed).unheard id)
  | settled =>
    exact Or.inl (settle_keeps net.recorded handler (P := Unheard id m)
      (fun hchore h => h.trans (hchore.unread.unheard id)) (.refl id m))

theorem Stage.unheard (h : Stage net.recorded handler m m') (id : Handle) :
    Unheard id m m' ∨ m' = readAll net.recorded handler m id := by
  cases h with
  | served h => exact h.unheard id
  | listened => exact Or.inl ⟨List.suffix_rfl, rfl, rfl⟩
  | deactivated => exact Or.inl ((Calm.deactivate m).unheard id)
  | verbosity => exact Or.inl ⟨List.suffix_rfl, rfl, rfl⟩
  | call call => exact Or.inl ⟨List.suffix_cons _ _, gathered_cons_of_nil rfl, rfl⟩

/-! ## What is heard of it -/

/-- What the system has given of the bytes of a connection, where some of them may not be noted
yet. -/
structure Hearing (net : Host ε) (id : Handle) (pending : List UInt8)
    (m : Multiplexer σ (ε × List Dealing)) : Prop where
  /-- What was noted came first. -/
  begins : bytesReceived id m.journal <+: bytesAnswered id m.host.2
  /-- While the connection is read, the rest is pending. -/
  active : standing id m.journal = .active →
    bytesReceived id m.journal ++ pending = bytesAnswered id m.host.2
  /-- Before it comes nothing is given. -/
  unseen : standing id m.journal = .unseen → pending = [] ∧ bytesAnswered id m.host.2 = []
  /-- The rest is pending also when the connection has ended, if nobody asked for it. -/
  whole : NeverRefuses net id → ¬ Asked id m.journal →
    bytesReceived id m.journal ++ pending = bytesAnswered id m.host.2

namespace Hearing

theorem create (net : Host ε) (id : Handle) (listen : ListenSettings) (start : σ) (host : ε) :
    Hearing net id [] (Multiplexer.create listen start (host, [])) where
  begins := List.nil_prefix
  active _ := rfl
  unseen _ := ⟨rfl, rfl⟩
  whole _ _ := rfl

/-- Whatever happens of which nothing is heard. -/
theorem later (h : Hearing net id pending m) (hunheard : Unheard id m m')
    (hlawful : Lawful m'.journal) : Hearing net id pending m' := by
  obtain ⟨⟨newer, hgrown⟩, hreceived, hanswered⟩ := hunheard
  rw [← hgrown] at hlawful
  refine ⟨?_, fun hactive => ?_, fun hunseen => ?_, fun hnever hasked => ?_⟩
  · rw [hreceived, hanswered]
    exact h.begins
  · rw [hreceived, hanswered]
    rw [← hgrown] at hactive
    rcases active_or_unseen_of_append hlawful hactive with hbefore | hbefore
    · exact h.active hbefore
    · -- the connection has just come
      obtain ⟨rfl, hnothing⟩ := h.unseen hbefore
      rw [(silence_of_unseen hlawful.of_append hbefore).1, hnothing]
      rfl
  · rw [hanswered]
    rw [← hgrown] at hunseen
    exact h.unseen (unseen_of_append hunseen)
  · rw [hreceived, hanswered]
    rw [← hgrown] at hasked
    exact h.whole hnever fun hbefore => hasked (hbefore.append newer)

/-- What is pending is not looked at any more when the connection is not read any more. -/
theorem stop (h : Hearing net id pending m) (hread : NeverRefuses net id → ReadOrAsked id m.journal)
    (hnot : standing id m.journal ≠ .active) : Hearing net id [] m where
  begins := h.begins
  active hactive := absurd hactive hnot
  unseen hunseen := ⟨rfl, (h.unseen hunseen).2⟩
  whole hnever hasked := by
    rcases hread hnever with hactive | hbefore
    · exact absurd hactive hnot
    · exact absurd hbefore hasked

/-- The system gives a series of answers. -/
theorem given (h : Hearing net id [] m) (hactive : standing id m.journal = .active) :
    Hearing net id (ReadAnswer.bytes (net.recorded.read m.host id).1)
      { m with host := (net.recorded.read m.host id).2 } := by
  have hanswered : bytesAnswered id (net.recorded.read m.host id).2.2 =
      bytesAnswered id m.host.2 ++ ReadAnswer.bytes (net.recorded.read m.host id).1 := by
    change gathered _ (.read id _ :: m.host.2) = _
    rw [gathered, Dealing.bytesFrom, if_pos rfl]
    rfl
  have hall := h.active hactive
  rw [List.append_nil] at hall
  refine ⟨?_, fun _ => ?_, fun hunseen => ?_, fun _ _ => ?_⟩
  · rw [hanswered]
    exact h.begins.trans (List.prefix_append _ _)
  · rw [hanswered, ← hall]
  · cases hactive.symm.trans hunseen
  · rw [hanswered, ← hall]

/-- The first bytes of those pending are noted. -/
theorem receive {bytes : List UInt8} (h : Hearing net id (bytes ++ pending) m)
    (hactive : standing id m.journal = .active) (c' : Connection) :
    Hearing net id pending
      ({ m with board := m.board.put id c' }.record (.received id bytes)) := by
  have hall : bytesReceived id (.received id bytes :: m.journal) ++ pending =
      bytesAnswered id m.host.2 := by
    rw [bytesReceived_received, List.append_assoc, h.active hactive]
  refine ⟨?_, fun _ => hall, fun hunseen => ?_, fun _ _ => hall⟩
  · change bytesReceived id (.received id bytes :: m.journal) <+: bytesAnswered id m.host.2
    rw [← hall]
    exact List.prefix_append _ _
  · cases hactive.symm.trans hunseen

end Hearing

/-- While lines are dealt with, what is pending stays pending. -/
theorem dispatch_hearing (lines : List String) (hm : Consistent handler start m)
    (h : Hearing net id pending m) (hread : NeverRefuses net id → ReadOrAsked id m.journal) :
    let after := dispatch net.recorded handler id lines m
    Consistent handler start after ∧ Hearing net id pending after ∧
      (NeverRefuses net id → ReadOrAsked id after.journal) := by
  refine dispatch_keeps net.recorded handler (P := fun m => Consistent handler start m ∧
    Hearing net id pending m ∧ (NeverRefuses net id → ReadOrAsked id m.journal)) ?_ ?_ lines
    ⟨hm, h, hread⟩
  · rintro m text haccepts ⟨hm, h, hread⟩
    have hline : Action net.recorded handler m (raise handler m (.line id text)) :=
      Action.line text haccepts
    have hafter := hline.consistent hm
    exact ⟨hafter, h.later (unheard_raise _) hafter.lawful,
      fun hnever => readOrAsked_raise (hread hnever)⟩
  · rintro m m' hchore ⟨hm, h, hread⟩
    have hafter := hchore.action.consistent hm
    have hnever' : NeverRefuses net id → NeverRefuses net.recorded id :=
      fun hnever state writes => hnever state.1 writes
    exact ⟨hafter, h.later (hchore.unread.unheard id) hafter.lawful,
      fun hnever => hchore.readOrAsked (hnever' hnever) hm (hread hnever)⟩

/-- When a series of answers has been dealt with, nothing of it is pending any more. -/
theorem readEach_hearing (answers : List ReadAnswer) (hm : Consistent handler start m)
    (h : Hearing net id (ReadAnswer.bytes answers) m)
    (hread : NeverRefuses net id → ReadOrAsked id m.journal) :
    Hearing net id [] (readEach net.recorded handler id answers m) := by
  induction answers generalizing m with
  | nil => exact h
  | cons answer answers ih =>
    rw [readEach]
    cases hc : m.board.get? id with
    | none =>
      refine h.stop hread fun hactive => ?_
      have haccepts := hm.accepts_iff.mpr hactive
      rw [Switchboard.accepts, hc] at haccepts
      cases haccepts
    | some c =>
      dsimp only
      split
      · rename_i hclosing
        refine h.stop hread fun hactive => ?_
        cases hclosing.symm.trans ((hm.reads_iff hc).mpr hactive)
      · rename_i hopen
        have hopen : c.closing = false := Bool.eq_false_iff.mpr hopen
        have hactive : standing id m.journal = .active := (hm.reads_iff hc).mp hopen
        have hended : Hearing net id [] m →
            Hearing net id [] (close handler m id .readEnded) := by
          intro h
          have hclosed : Action net.recorded handler m (close handler m id .readEnded) :=
            Action.closed hc hopen
          exact h.later ((Calm.close hc _).unheard id) (hclosed.consistent hm).lawful
        cases answer with
        | received piece =>
          have hreceived : Action net.recorded handler m
              ({ m with board := m.board.put id (c.receive piece.bytes).1 }.record
                (.received id piece.bytes)) := Action.received piece.bytes hc hopen
          obtain ⟨hm', h', hread'⟩ := dispatch_hearing (c.receive piece.bytes).2
            (hreceived.consistent hm) (h.receive hactive _) fun _ => Or.inl hactive
          exact ih hm' h' hread'
        | interrupted => exact ih hm h hread
        | finished => exact hended h
        | failed => exact hended h

/-- Between two stages nothing is pending. -/
theorem Stage.hearing (h : Stage net.recorded handler m m') (hm : Consistent handler start m)
    (hhearing : Hearing net id [] m) : Hearing net id [] m' := by
  rcases h.unheard id with hunheard | rfl
  · exact hhearing.later hunheard (hm.actions h.actions).lawful
  · unfold readAll
    split
    · rename_i haccepts
      have hactive := hm.accepts_iff.mp haccepts
      have hread : Action net.recorded handler m
          { m with host := (net.recorded.read m.host id).2 } := Action.read id
      exact readEach_hearing _ (hread.consistent hm) (hhearing.given hactive) fun _ =>
        Or.inl hactive
    · exact hhearing

/-- In no run anything is pending when a demand has been met. -/
theorem recordedRun_hearing (net : Host ε) (handler : Handler σ) (listen : ListenSettings)
    (start : σ) (host : ε) (demands : List (Demand ε)) (id : Handle) :
    Hearing net id [] (recordedRun net handler listen start host demands) := by
  refine (recordedRun_keeps_of_stages net handler listen start host demands
    (P := fun m => Consistent handler start m ∧ Hearing net id [] m) ?_ ?_ ?_).2
  · rintro m m' hstage ⟨hm, hhearing⟩
    exact ⟨hm.actions hstage.actions, hstage.hearing hm hhearing⟩
  · rintro m state ⟨hm, hhearing⟩
    exact ⟨hm.congr rfl rfl (Nat.le_refl _) fun _ => rfl,
      hhearing.begins, hhearing.active, hhearing.unseen, hhearing.whole⟩
  · exact ⟨Consistent.create listen start (host, []), Hearing.create net id listen start host⟩

section Runs

variable (net : Host ε) (handler : Handler σ) (listen : ListenSettings) (start : σ) (host : ε)
  (demands : List (Demand ε)) (id : Handle)

/-- The bytes noted are the first ones of those that the system has given, and all of them if
nobody asked for the connection to be closed. -/
theorem run_received :
    let m := run net handler (create listen start host) demands
    let log := dealings net handler listen start host demands
    bytesReceived id m.journal <+: bytesAnswered id log ∧
      (NeverRefuses net id → ¬ Asked id m.journal →
        bytesReceived id m.journal = bytesAnswered id log) := by
  intro m log
  obtain ⟨hbegins, -, -, hwhole⟩ := recordedRun_hearing net handler listen start host demands id
  have hjournal : (recordedRun net handler listen start host demands).journal = m.journal :=
    congrArg journal (recordedRun_onHost net handler listen start host demands)
  rw [hjournal] at hbegins hwhole
  refine ⟨hbegins, fun hnever hasked => ?_⟩
  rw [← List.append_nil (bytesReceived id m.journal)]
  exact hwhole hnever hasked

/-- So are the lines handed on those of the bytes that the system has given. -/
theorem run_lines :
    let m := run net handler (create listen start host) demands
    let log := dealings net handler listen start host demands
    linesHandedOn id m.journal <+: expectedLines standardLimit (bytesAnswered id log) ∧
      (NeverRefuses net id → ¬ Asked id m.journal →
        linesHandedOn id m.journal = expectedLines standardLimit (bytesAnswered id log)) := by
  intro m log
  have howing : Owing net id [] m := run_owing net handler listen start host demands id
  obtain ⟨⟨rest, hrest⟩, hall⟩ : bytesReceived id m.journal <+: bytesAnswered id log ∧ _ :=
    run_received net handler listen start host demands id
  constructor
  · rw [← hrest]
    exact (linesHandedOn_begins howing.begun).trans (expectedLines_begins standardLimit _ rest)
  · intro hnever hasked
    rw [← hall hnever hasked, ← linesReceived, ← howing.whole hnever hasked, List.append_nil]

end Runs

/-- Lines are delivered, in every run of the server, for every handler and every host: those of
what the system gave of a connection's bytes, by its own records, which change nothing of the
run. A wait takes what is ready. None is missing unless the connection was asked to be closed,
none comes after such a request, and other connections make no difference. -/
theorem lines_delivered (net : Host ε) (handler : Handler σ) (listen : ListenSettings) (start : σ)
    (host : ε) (demands : List (Demand ε)) (id : Handle) :
    let m := run net handler (create listen start host) demands
    let log := dealings net handler listen start host demands
    (m.state = handler.after start m.journal ∧ handler.Answered start m.journal) ∧
    (recordedRun net handler listen start host demands).onHost Prod.fst = m ∧
    (IsReady net id m → m.board.accepts id = true →
      (run net handler (create listen start host) (demands ++ [.wait])).board.accepts id = true →
      ∃ newer answers, dealings net handler listen start host (demands ++ [.wait]) =
        newer ++ log ∧ .read id answers ∈ newer) ∧
    (∀ later past, m.journal = later ++ past →
      linesHandedOn id past <+: expectedLines standardLimit (bytesReceived id past)) ∧
    bytesReceived id m.journal <+: bytesAnswered id log ∧
    linesHandedOn id m.journal <+: expectedLines standardLimit (bytesAnswered id log) ∧
    (NeverRefuses net id → ¬ Asked id m.journal →
      bytesReceived id m.journal = bytesAnswered id log ∧
      linesHandedOn id m.journal = expectedLines standardLimit (bytesAnswered id log)) ∧
    (∀ later past, m.journal = later ++ .called (.disconnect id) :: past →
      standing id past ≠ .unseen → ∀ text count, .raised (.line id text) count ∉ later) ∧
    (∀ {σ' ε' : Type} (net' : Host ε') (handler' : Handler σ') (listen' : ListenSettings)
      (start' : σ') (host' : ε') (demands' : List (Demand ε')) (id' : Handle),
      let m' := run net' handler' (create listen' start' host') demands'
      let log' := dealings net' handler' listen' start' host' demands'
      bytesAnswered id' log' = bytesAnswered id log →
      (linesHandedOn id m.journal <+: linesHandedOn id' m'.journal ∨
        linesHandedOn id' m'.journal <+: linesHandedOn id m.journal) ∧
      (NeverRefuses net id → ¬ Asked id m.journal →
        NeverRefuses net' id' → ¬ Asked id' m'.journal →
        linesHandedOn id m.journal = linesHandedOn id' m'.journal)) := by
  intro m log
  have hm : Consistent handler start m := run_consistent net handler listen start host demands
  have howing : Owing net id [] m := run_owing net handler listen start host demands id
  obtain ⟨hreceived, hall⟩ := run_received net handler listen start host demands id
  obtain ⟨hbegins, hwhole⟩ := run_lines net handler listen start host demands id
  refine ⟨⟨hm.state, run_answered net handler listen start host demands⟩,
    recordedRun_onHost net handler listen start host demands,
    run_reads net handler listen start host demands id,
    fun later past hjournal => ?_, hreceived, hbegins,
    fun hnever hasked => ⟨hall hnever hasked, hwhole hnever hasked⟩,
    fun later past hjournal hseen => ?_, ?_⟩
  · have heach := howing.begun
    rw [hjournal] at heach
    exact linesHandedOn_begins heach.of_append
  · have hlawful := hm.lawful
    rw [hjournal] at hlawful
    exact line_not_mem_of_isOver hlawful (isOver_of_asked hseen)
  · intro σ' ε' net' handler' listen' start' host' demands' id' m' log' hbytes
    obtain ⟨hbegins', hwhole'⟩ := run_lines net' handler' listen' start' host' demands' id'
    rw [hbytes] at hbegins' hwhole'
    refine ⟨List.prefix_or_prefix_of_prefix hbegins hbegins',
      fun hnever hasked hnever' hasked' => ?_⟩
    rw [hwhole hnever hasked, hwhole' hnever' hasked']

/-- Two clients send at the same time. The bytes of the first one arrive divided, and its last
line is not complete yet. -/
def divided : List (Demand Loopback) :=
  [.activate, .meanwhile fun s => (s.connect 1).connect 2, .wait,
    .meanwhile fun s => (s.write 1 (LossyUtf8.encode "hel") false).write 2
      (LossyUtf8.encode "other\r\n") false,
    .wait, .meanwhile fun s => s.write 1 (LossyUtf8.encode "lo\r\n\nagain\nand") false, .wait]

/-- The lines of the first client are put together from what the system gave in two series. -/
theorem lines_delivered_divided :
    let quiet := Loopback.idle true false
    let m := run Loopback.host Echo.handler (create ⟨6667, ""⟩ () quiet) divided
    let log := dealings Loopback.host Echo.handler ⟨6667, ""⟩ () quiet divided
    bytesAnswered 1 log = LossyUtf8.encode "hello\r\n\nagain\nand" ∧
      linesHandedOn 1 m.journal = ["hello", "again"] ∧ linesHandedOn 2 m.journal = ["other"] := by
  intro quiet m log
  have hfirst : bytesAnswered 1 log = LossyUtf8.encode "hello\r\n\nagain\nand" := by decide +kernel
  have hsecond : bytesAnswered 2 log = LossyUtf8.encode "other\r\n" := by decide +kernel
  have hasked (id : Handle) (hid : .called (.disconnect id) ∉ m.journal) : ¬Asked id m.journal := by
    rintro ⟨later, past, hjournal, -⟩
    rw [hjournal] at hid
    exact hid (List.mem_append_right later List.mem_cons_self)
  have hnever (id : Handle) : NeverRefuses Loopback.host id := fun _ _ => rfl
  have hlines (id : Handle) (hid : .called (.disconnect id) ∉ m.journal) :
      linesHandedOn id m.journal = expectedLines standardLimit (bytesAnswered id log) := by
    obtain ⟨-, -, -, -, -, -, hwhole, -⟩ := lines_delivered Loopback.host Echo.handler ⟨6667, ""⟩
      () quiet divided id
    exact (hwhole (hnever id) (hasked id hid)).2
  refine ⟨hfirst, ?_, ?_⟩
  · rw [hlines 1 (by decide +kernel), hfirst]
    decide +kernel
  · rw [hlines 2 (by decide +kernel), hsecond]
    decide +kernel

end Multiplexer

end RelayChat
