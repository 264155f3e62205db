import RelayChat.Proofs.ServerRuns

/-!
# What the system was asked and what it answered

The journal is the server's own account of what it has done. The other side's is kept by a
system that records its dealings: `Host.recorded` answers as the system underneath does and
writes down, for each connection, what was asked and what was answered. Recording changes
nothing of a run (`recordedRun_onHost`), so that the `dealings` belong to the run itself,
and the journal can be held against them. What can be read off them is said by
`bytesAnswered`, `bytesTaken`, `writeBroke` and `lastArmed`, which know nothing of what the
server makes of the answers.

Journal and dealings grow together. Most of what the server does moves no bytes, and what
writes some is one dealing with its entries (`Unread`). The entry of what was read comes
after the dealing, when lines may have been dealt with in between (`Action.traced`).
-/

namespace RelayChat

open Relation

/-! ## Dealings -/

/-- What passed between a server and the system about a connection. -/
inductive Dealing where
  /-- The server asked for what had arrived, and got a series of answers. -/
  | read (id : Handle) (answers : List ReadAnswer)
  /-- The server asked that bytes be written, and got a series of answers. -/
  | wrote (id : Handle) (bytes : List UInt8) (answers : List WriteAnswer)
  /-- The server asked that room to write be watched for or not, and it was done or refused. -/
  | armed (id : Handle) (writes accepted : Bool)
deriving DecidableEq

/-- The bytes of a series of answers to attempts to read. Nothing arrives after the end. -/
def ReadAnswer.bytes : List ReadAnswer → List UInt8
  | [] => []
  | .received piece :: answers => piece.bytes ++ bytes answers
  | .interrupted :: answers => bytes answers
  | .finished :: _ | .failed :: _ => []

/-- How many bytes a series of answers to attempts to write takes. Nothing is taken after an
attempt that fails, and an attempt of which nothing is taken has failed. -/
def WriteAnswer.count : List WriteAnswer → Nat
  | [] => 0
  | .interrupted :: answers => count answers
  | .failed :: _ | .accepted 0 :: _ => 0
  | .accepted taken :: answers => taken + count answers

/-- Whether an attempt of a series fails. -/
def WriteAnswer.breaks : List WriteAnswer → Bool
  | [] => false
  | .failed :: _ | .accepted 0 :: _ => true
  | _ :: answers => breaks answers

namespace Dealing

/-- The bytes of a connection that the system has given. -/
def bytesFrom (id : Handle) : Dealing → List UInt8
  | read k answers => if k = id then ReadAnswer.bytes answers else []
  | _ => []

/-- The bytes that the system has taken for a connection: the first ones of those that it was
given. -/
def bytesTo (id : Handle) : Dealing → List UInt8
  | wrote k bytes answers => if k = id then bytes.take (WriteAnswer.count answers) else []
  | _ => []

/-- Whether an attempt to write to a connection failed while there were bytes to write. -/
def broke (id : Handle) : Dealing → Bool
  | wrote k bytes answers =>
    k == id && WriteAnswer.breaks answers && WriteAnswer.count answers < bytes.length
  | _ => false

end Dealing

/-- The bytes of a connection that the system has given, in order. -/
def bytesAnswered (id : Handle) : List Dealing → List UInt8 := gathered (Dealing.bytesFrom id)

/-- The bytes that the system has taken for a connection, in order. -/
def bytesTaken (id : Handle) : List Dealing → List UInt8 := gathered (Dealing.bytesTo id)

/-- Whether an attempt to write to a connection has failed. -/
def writeBroke (id : Handle) (log : List Dealing) : Bool := log.any (Dealing.broke id)

/-- Whether the poller watches for room to write to a connection, as it was last made to. -/
def lastArmed (id : Handle) : List Dealing → Bool
  | [] => false
  | .armed k writes true :: log => if k = id then writes else lastArmed id log
  | _ :: log => lastArmed id log

/-- An entry that tells of no bytes. -/
def Entry.IsStill : Entry → Prop
  | .received .. | .wrote .. | .writeFailed .. => False
  | _ => True

/-! ## A system that records -/

variable {σ ε : Type}

/-- The system, writing down its dealings, the last one first. -/
def Host.recorded (net : Host ε) : Host (ε × List Dealing) where
  bind s wanted := ((net.bind s.1 wanted).1, (net.bind s.1 wanted).2, s.2)
  poll s := ((net.poll s.1).1, (net.poll s.1).2, s.2)
  accept s := ((net.accept s.1).1, (net.accept s.1).2, s.2)
  read s id := ((net.read s.1 id).1, (net.read s.1 id).2, .read id (net.read s.1 id).1 :: s.2)
  write s id bytes :=
    ((net.write s.1 id bytes).1, (net.write s.1 id bytes).2,
      .wrote id bytes (net.write s.1 id bytes).1 :: s.2)
  arm s id writes :=
    ((net.arm s.1 id writes).1, (net.arm s.1 id writes).2,
      .armed id writes (net.arm s.1 id writes).1 :: s.2)

namespace Multiplexer

/-- The demand, made of a system that records. -/
def Demand.recorded : Demand ε → Demand (ε × List Dealing)
  | .activate => .activate
  | .deactivate => .deactivate
  | .wait => .wait
  | .setVerbosity level => .setVerbosity level
  | .call calls => .call calls
  | .meanwhile change => .meanwhile (Prod.map change id)

section Runs

variable (net : Host ε) (handler : Handler σ) (listen : ListenSettings) (start : σ) (host : ε)
  (demands : List (Demand ε))

/-- A run of the server on the system that records. -/
def recordedRun : Multiplexer σ (ε × List Dealing) :=
  run net.recorded handler (create listen start (host, [])) (demands.map Demand.recorded)

/-- What passed between the server and the system in a run, the last thing first. -/
def dealings : List Dealing := (recordedRun net handler listen start host demands).host.2

theorem alike_recorded : net.recorded.Alike Prod.fst net :=
  ⟨fun _ => rfl, fun _ _ => rfl, fun _ _ _ => rfl, fun _ _ _ => rfl⟩

theorem meet_onHost_recorded (m : Multiplexer σ (ε × List Dealing)) (demand : Demand ε) :
    meet net handler (m.onHost Prod.fst) demand =
      (meet net.recorded handler m demand.recorded).onHost Prod.fst := by
  have hbind : ∀ (s : ε × List Dealing) (wanted : Endpoint),
      net.bind s.1 wanted = Prod.map id Prod.fst (net.recorded.bind s wanted) := fun _ _ => rfl
  cases demand with
  | activate => exact congrArg Prod.fst (activate_onHost hbind m)
  | deactivate =>
    simp only [meet, Demand.recorded, deactivate, apply_ite (onHost Prod.fst)]
    rfl
  | wait => exact congrArg Prod.fst (wait_onHost (alike_recorded net) (fun _ => rfl) m)
  | setVerbosity level =>
    simp only [meet, Demand.recorded, setVerbosity]
    cases Verbosity.ofLevel level <;> rfl
  | call calls => exact callAll_onHost (alike_recorded net) m calls
  | meanwhile change => rfl

/-- Recording changes nothing of a run. -/
theorem recordedRun_onHost :
    (recordedRun net handler listen start host demands).onHost Prod.fst =
      run net handler (create listen start host) demands := by
  rw [recordedRun, run, List.foldl_map]
  exact (List.foldl_hom (onHost Prod.fst) (meet_onHost_recorded net handler)).symm

/-- What survives every stage, and every change of the system that leaves its records alone,
holds throughout a run. -/
theorem recordedRun_keeps_of_stages {P : Multiplexer σ (ε × List Dealing) → Prop}
    (hstage : ∀ {m m' : Multiplexer σ (ε × List Dealing)},
      Stage net.recorded handler m m' → P m → P m')
    (hmeanwhile : ∀ {m : Multiplexer σ (ε × List Dealing)} (host : ε), P m →
      P { m with host := (host, m.host.2) })
    (hstart : P (create listen start (host, []))) :
    P (recordedRun net handler listen start host demands) := by
  refine run_keeps_of_stages net.recorded handler (P := P) hstage ?_ hstart
  intro m change hmem hm
  obtain ⟨demand, -, hdemand⟩ := List.mem_map.mp hmem
  cases demand with
  | meanwhile change' =>
    cases hdemand
    exact hmeanwhile (change' m.host.1) hm
  | activate => cases hdemand
  | deactivate => cases hdemand
  | wait => cases hdemand
  | setVerbosity => cases hdemand
  | call => cases hdemand

/-- So does what survives every action. -/
theorem recordedRun_keeps {P : Multiplexer σ (ε × List Dealing) → Prop}
    (haction : ∀ {m m' : Multiplexer σ (ε × List Dealing)},
      Action net.recorded handler m m' → P m → P m')
    (hmeanwhile : ∀ {m : Multiplexer σ (ε × List Dealing)} (host : ε), P m →
      P { m with host := (host, m.host.2) })
    (hstart : P (create listen start (host, []))) :
    P (recordedRun net handler listen start host demands) :=
  recordedRun_keeps_of_stages net handler listen start host demands (P := P)
    (fun hstage hm => keeps_of_steps (P := P) haction hstage.actions hm) hmeanwhile hstart

end Runs

/-! ## Which dealings go with which entries -/

section Calm

variable {handler : Handler σ} {m m' m'' : Multiplexer σ ε} {id : Handle} {c : Connection}

/-- The system was asked for nothing, and nothing was noted but events, calls and closings. -/
structure Calm (m m' : Multiplexer σ ε) : Prop where
  /-- The system is as it was. -/
  host : m'.host = m.host
  /-- What was noted tells of no bytes. -/
  journal : ∃ entries, m'.journal = entries ++ m.journal ∧ ∀ entry ∈ entries, entry.IsStill

namespace Calm

theorem of_journal (hhost : m'.host = m.host) (hjournal : m'.journal = m.journal) : Calm m m' :=
  ⟨hhost, [], hjournal, nofun⟩

/-- An event, a call or a closing is noted. -/
theorem note {entry : Entry} (h : Calm m m') (hhost : m''.host = m'.host)
    (hjournal : m''.journal = entry :: m'.journal) (hstill : entry.IsStill) : Calm m m'' := by
  obtain ⟨entries, hentries, hall⟩ := h.journal
  refine ⟨hhost.trans h.host, entry :: entries, ?_, List.forall_mem_cons.mpr ⟨hstill, hall⟩⟩
  rw [hjournal, hentries, List.cons_append]

theorem raise (h : Calm m m') (event : Event) : Calm m (Multiplexer.raise handler m' event) :=
  raise_keeps (h.note rfl rfl trivial) fun _ h => h.note rfl rfl trivial

theorem close (hc : m.board.get? id = some c) (cause : Closing) :
    Calm m (Multiplexer.close handler m id cause) := by
  have hrefl : Calm m m := of_journal rfl rfl
  have hclosed : Calm m
      ({ m with board := m.board.remove id }.record (.closed id cause c.outbound)) :=
    hrefl.note rfl rfl trivial
  rw [close_of_get? hc]
  exact hclosed.raise (.drop id)

theorem deactivate (m : Multiplexer σ ε) : Calm m m.deactivate :=
  deactivate_keeps (P := Calm m) (fun _ h => h.note rfl rfl trivial)
    (fun _ h => ⟨h.host, h.journal⟩) (of_journal rfl rfl)

end Calm

end Calm

section Traced

variable {net : Host ε} {handler : Handler σ} {m m' : Multiplexer σ (ε × List Dealing)}

/-- The entries with which a server notes that it wrote. -/
def notesOf (id : Handle) (flushed : Connection.Flushed) : List Entry :=
  if flushed.failed then [.writeFailed id, .wrote id flushed.written]
  else [.wrote id flushed.written]

theorem mem_notesOf {id : Handle} {flushed : Connection.Flushed} {entry : Entry}
    (h : entry ∈ notesOf id flushed) :
    entry = .wrote id flushed.written ∨ entry = .writeFailed id := by
  unfold notesOf at h
  split at h
  · rcases List.mem_cons.mp h with rfl | hmem
    · exact Or.inr rfl
    · exact Or.inl (List.mem_singleton.mp hmem)
  · exact Or.inl (List.mem_singleton.mp h)

/-- What the server noted and how the system was dealt with, as long as nothing is read. -/
inductive Unread (m m' : Multiplexer σ (ε × List Dealing)) : Prop where
  /-- No bytes are moved. Connections may be watched otherwise. -/
  | still (entries : List Entry) (log : List Dealing)
      (hjournal : m'.journal = entries ++ m.journal) (hstill : ∀ entry ∈ entries, entry.IsStill)
      (hlog : m'.host.2 = log ++ m.host.2)
      (hwatch : ∀ dealing ∈ log, ∃ id writes accepted, dealing = .armed id writes accepted)
  /-- The output of a connection is written. -/
  | wrote {id : Handle} {c : Connection} (answers : List WriteAnswer)
      (hc : m.board.get? id = some c)
      (hjournal : m'.journal = notesOf id (Connection.flush c.outbound answers) ++ m.journal)
      (hlog : m'.host.2 = .wrote id c.outbound answers :: m.host.2)

theorem Calm.unread (h : Calm m m') : Unread m m' := by
  obtain ⟨entries, hjournal, hstill⟩ := h.journal
  exact .still entries [] hjournal hstill (congrArg Prod.snd h.host) nofun

theorem unread_asked {host : ε × List Dealing} (h : net.recorded.Asks m.host host) :
    Unread m { m with host := host } := by
  cases h with
  | bound | polled | accepted =>
    exact .still [] [] rfl nofun rfl nofun
  | @refused id writes h =>
    exact .still [] [_] rfl nofun rfl fun _ hmem => ⟨_, _, _, List.mem_singleton.mp hmem⟩

/-- A burst of writes is one dealing. -/
theorem written_dealing (id : Handle) (c : Connection) :
    (m.written net.recorded id c).host.2 =
      .wrote id c.outbound (net.write m.host.1 id c.outbound).1 :: m.host.2 := by
  unfold written
  split <;> rfl

theorem unread_written {id : Handle} {c : Connection} (hc : m.board.get? id = some c) :
    Unread m (m.written net.recorded id c) := by
  refine .wrote (net.write m.host.1 id c.outbound).1 hc ?_ (written_dealing id c)
  have hflushed : Connection.flush c.outbound (net.write m.host.1 id c.outbound).1 =
      m.flushed net.recorded id c := rfl
  rw [hflushed, written, notesOf]
  split <;> rfl

theorem unread_armed {id : Handle} {c : Connection} : Unread m (m.armed net.recorded id c) :=
  .still [] [_] rfl nofun rfl fun _ hmem => ⟨_, _, _, List.mem_singleton.mp hmem⟩

theorem Chore.unread (h : Chore net.recorded handler m m') : Unread m m' := by
  cases h with
  | asked h => exact unread_asked h
  | wrote hc => exact unread_written hc
  | armed => exact unread_armed
  | taken => exact Calm.unread (.of_journal rfl rfl)
  | released hc => exact Calm.unread (Calm.close hc _)
  | refused hc => exact Calm.unread (Calm.close hc _)

/-- Bytes are read in two actions: first the system gives them, and then they are noted. -/
theorem Action.traced (h : Action net.recorded handler m m') :
    Unread m m' ∨
      (∃ id answers, m'.journal = m.journal ∧ m'.host.2 = .read id answers :: m.host.2) ∨
      ∃ id bytes, m'.journal = .received id bytes :: m.journal ∧ m'.host.2 = m.host.2 := by
  have hrefl : Calm m m := .of_journal rfl rfl
  cases h with
  | asked h => exact Or.inl (unread_asked h)
  | read id => exact Or.inr (Or.inl ⟨id, _, rfl, rfl⟩)
  | listened => exact Or.inl (Calm.unread (.of_journal rfl rfl))
  | deactivated => exact Or.inl (Calm.unread (Calm.deactivate m))
  | verbosity => exact Or.inl (Calm.unread (.of_journal rfl rfl))
  | call => exact Or.inl (Calm.unread (hrefl.note rfl rfl trivial))
  | admitted =>
    have hput : Calm m
        { m with nextHandle := m.nextHandle + 1,
                 board := m.board.put m.nextHandle Connection.fresh } := .of_journal rfl rfl
    exact Or.inl (Calm.unread (hput.raise _))
  | skipped => exact Or.inl (Calm.unread (.of_journal rfl rfl))
  | received bytes => exact Or.inr (Or.inr ⟨_, bytes, rfl, rfl⟩)
  | line text => exact Or.inl (Calm.unread (hrefl.raise _))
  | wrote hc => exact Or.inl (unread_written hc)
  | armed => exact Or.inl unread_armed
  | marked => exact Or.inl (Calm.unread (.of_journal rfl rfl))
  | taken => exact Or.inl (Calm.unread (.of_journal rfl rfl))
  | closed hc => exact Or.inl (Calm.unread (Calm.close hc _))

/-- Dealings are only added. -/
theorem dealings_grow (h : ReflTransGen (Action net.recorded handler) m m') :
    m.host.2 <:+ m'.host.2 := by
  refine keeps_of_steps (P := fun after => m.host.2 <:+ after.host.2) (fun haction hm => ?_) h
    List.suffix_rfl
  refine hm.trans ?_
  rcases haction.traced with hunread | ⟨_, _, -, hlog⟩ | ⟨_, _, -, hlog⟩
  · cases hunread with
    | still _ log _ _ hlog => exact ⟨log, hlog.symm⟩
    | wrote _ _ _ hlog => exact hlog ▸ List.suffix_cons _ _
  · exact hlog ▸ List.suffix_cons _ _
  · exact hlog ▸ List.suffix_rfl

end Traced

end Multiplexer

end RelayChat
