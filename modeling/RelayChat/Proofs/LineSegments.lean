import RelayChat.LineFramer

/-!
# Lines however the bytes arrive

What a framer finds is fixed by the bytes alone. `Framer.expected` reads it off the
cut of the whole stream at its terminators: one verdict for every segment that is
not empty, and one more if the unterminated remainder is too long. `Framer.pending`
says what is still to be found when some bytes have been dealt with. A call finds
the front of it and leaves the rest (`pending_next`), so it makes no difference in
which pieces the bytes arrive and how often the framer is called between them.
-/

namespace RelayChat

namespace Framer

/-! ## The cut of a stream -/

/-- What is reported of a line, leaving out how many bytes were counted. -/
inductive Verdict where
  /-- A line as text. -/
  | line (text : String)
  /-- A line above the limit. -/
  | tooLong (limit : Nat)
deriving DecidableEq, Repr

/-- What a call reports, if it found anything. -/
def Found.verdict? : Found → Option Verdict
  | .line bytes => some (.line (LossyUtf8.decode bytes))
  | .tooLong error => some (.tooLong error.limit)
  | .nothing => none

/-- Everything that is reported, in order. -/
def verdicts (found : List Found) : List Verdict :=
  found.filterMap Found.verdict?

theorem verdicts_append (first others : List Found) :
    verdicts (first ++ others) = verdicts first ++ verdicts others :=
  List.filterMap_append

theorem verdicts_cons (first : Found) (others : List Found) :
    verdicts (first :: others) = verdicts [first] ++ verdicts others :=
  verdicts_append [first] others

/-- The segments of a stream that a terminator ends. -/
def segments (bytes : List UInt8) : List (List UInt8) :=
  (bytes.splitOnP isTerminator).dropLast

/-- The rest of a stream after its last terminator. -/
def remainder (bytes : List UInt8) : List UInt8 :=
  (bytes.splitOnP isTerminator).getLastD []

/-- The verdict on a segment; there is none on an empty one. -/
def segmentVerdicts (limit : Nat) (segment : List UInt8) : List Verdict :=
  if segment = [] then []
  else if segment.length + 2 > limit then [.tooLong limit]
  else [.line (LossyUtf8.decode segment)]

/-- The verdict on a remainder; there is none while it is within the limit. -/
def remainderVerdicts (limit : Nat) (bytes : List UInt8) : List Verdict :=
  if bytes.length > limit then [.tooLong limit] else []

/-- All verdicts on a stream. -/
def expected (limit : Nat) (bytes : List UInt8) : List Verdict :=
  (segments bytes).flatMap (segmentVerdicts limit) ++ remainderVerdicts limit (remainder bytes)

example : expected 6 "ab\r\nabcde\n\ncd".toUTF8.toList = [.line "ab", .tooLong 6] := by
  decide +kernel

/-- Bytes without a line end. -/
def Unbroken (bytes : List UInt8) : Prop :=
  ∀ b ∈ bytes, isTerminator b = false

variable {limit : Nat} {bytes line part rest : List UInt8} {b : UInt8}

theorem Unbroken.append (hline : Unbroken line) (hpart : Unbroken part) :
    Unbroken (line ++ part) := by
  intro b hb
  rcases List.mem_append.mp hb with hb | hb
  · exact hline b hb
  · exact hpart b hb

/-- Bytes that are passed over in the search for a line end. -/
theorem unbroken_takeWhile : Unbroken (bytes.takeWhile fun b => !isTerminator b) := by
  intro b hb
  have hpassed := List.all_eq_true.mp List.all_takeWhile b hb
  simpa using hpassed

/-- A search that finds nothing has passed over everything. -/
theorem unbroken_of_dropWhile_eq_nil (h : bytes.dropWhile (fun b => !isTerminator b) = []) :
    Unbroken bytes := by
  have he := List.takeWhile_append_dropWhile (p := fun b => !isTerminator b) (l := bytes)
  rw [h, List.append_nil] at he
  rw [← he]
  exact unbroken_takeWhile

/-- A search stops at a line end. -/
theorem isTerminator_of_dropWhile_eq_cons
    (h : bytes.dropWhile (fun b => !isTerminator b) = b :: rest) : isTerminator b = true := by
  have hhead := List.head?_dropWhile_not (fun b => !isTerminator b) bytes
  rw [h] at hhead
  simpa using hhead

/-- A stream is unbroken, or it begins with a line and its end. -/
theorem unbroken_or_cut (bytes : List UInt8) :
    Unbroken bytes ∨ ∃ line b rest,
      bytes = line ++ b :: rest ∧ Unbroken line ∧ isTerminator b = true := by
  cases h : bytes.dropWhile (fun b => !isTerminator b) with
  | nil => exact Or.inl (unbroken_of_dropWhile_eq_nil h)
  | cons b rest =>
    right
    refine ⟨bytes.takeWhile (fun b => !isTerminator b), b, rest, ?_, unbroken_takeWhile,
      isTerminator_of_dropWhile_eq_cons h⟩
    rw [← h, List.takeWhile_append_dropWhile]

/-- Nothing but a remainder. -/
theorem expected_of_unbroken (h : Unbroken bytes) :
    expected limit bytes = remainderVerdicts limit bytes := by
  rw [expected, segments, remainder, List.splitOnP_eq_singleton h]
  rfl

theorem unbroken_nil : Unbroken [] :=
  fun _ hb => absurd hb List.not_mem_nil

theorem expected_nil (limit : Nat) : expected limit [] = [] := by
  have hshort : ¬([] : List UInt8).length > limit := Nat.not_lt_zero limit
  rw [expected_of_unbroken unbroken_nil, remainderVerdicts, if_neg hshort]

/-- The first segment is judged before the others. -/
theorem expected_cut (hline : Unbroken line) (hb : isTerminator b = true) :
    expected limit (line ++ b :: rest) = segmentVerdicts limit line ++ expected limit rest := by
  have hne : rest.splitOnP isTerminator ≠ [] := List.splitOnP_ne_nil isTerminator rest
  rw [expected, expected, segments, remainder, segments, remainder,
    List.splitOnP_append_cons_of_forall_mem hline b hb, List.dropLast_cons_of_ne_nil hne,
    List.flatMap_cons, List.append_assoc]
  cases hsplit : rest.splitOnP isTerminator with
  | nil => exact absurd hsplit hne
  | cons first others => rfl

/-- The bytes after the first line end. -/
def afterTerminator (bytes : List UInt8) : List UInt8 :=
  (bytes.dropWhile fun b => !isTerminator b).tail

theorem afterTerminator_append (hline : Unbroken line) :
    afterTerminator (line ++ bytes) = afterTerminator bytes := by
  rw [afterTerminator, List.dropWhile_append_of_pos, afterTerminator]
  intro b hb
  rw [hline b hb, Bool.not_false]

theorem afterTerminator_cons (hb : isTerminator b = true) : afterTerminator (b :: rest) = rest := by
  rw [afterTerminator, List.dropWhile_cons_of_neg, List.tail_cons]
  simp [hb]

/-- Whoever has seen too many bytes of a line knows the verdict on it, wherever it
ends and even if it does not. -/
theorem expected_of_long (hpart : Unbroken part) (hlong : part.length > limit) :
    expected limit (part ++ bytes) = .tooLong limit :: expected limit (afterTerminator bytes) := by
  rcases unbroken_or_cut bytes with hbytes | ⟨line, b, rest, rfl, hline, hb⟩
  · have hafter : afterTerminator bytes = [] := by
      have h : afterTerminator (bytes ++ []) = afterTerminator [] := afterTerminator_append hbytes
      rwa [List.append_nil] at h
    have hlength : (part ++ bytes).length > limit := by
      rw [List.length_append]
      omega
    rw [expected_of_unbroken (hpart.append hbytes), remainderVerdicts, if_pos hlength, hafter]
    rfl
  · have hne : part ++ line ≠ [] := by
      rintro h
      have hnil := (List.append_eq_nil_iff.mp h).1
      rw [hnil, List.length_nil] at hlong
      omega
    have hlength : (part ++ line).length + 2 > limit := by
      rw [List.length_append]
      omega
    rw [← List.append_assoc, expected_cut (hpart.append hline) hb, segmentVerdicts, if_neg hne,
      if_pos hlength, afterTerminator_append hline, afterTerminator_cons hb]
    rfl

/-! ## What one call does -/

/-- What the framer has searched is in the buffer, and there is no line end in it. -/
structure Searched (f : Framer) (buffer : List UInt8) : Prop where
  /-- No more was searched than is there. -/
  scanned_le : f.scanned ≤ buffer.length
  /-- There was no line end in what was searched. -/
  unbroken : Unbroken (buffer.take f.scanned)

/-- What is still to be found in the given bytes. The rest of an overlong line is
passed over, since it was reported already. -/
def pending (f : Framer) (bytes : List UInt8) : List Verdict :=
  expected f.limit (if f.discarding then afterTerminator bytes else bytes)

variable {f : Framer} {buffer : List UInt8}

theorem searched_start (hstart : f.scanned = 0) : f.Searched buffer where
  scanned_le := by
    rw [hstart]
    exact Nat.zero_le _
  unbroken b hb := by
    rw [hstart, List.take_zero] at hb
    cases hb

theorem pending_of_discarding (hd : f.discarding = true) :
    f.pending bytes = expected f.limit (afterTerminator bytes) := by
  rw [pending, if_pos hd]

theorem pending_of_not_discarding (hd : f.discarding = false) :
    f.pending bytes = expected f.limit bytes := by
  rw [pending, if_neg (Bool.eq_false_iff.mp hd)]

/-- What was searched stays so when more bytes arrive. -/
theorem Searched.append (hf : f.Searched buffer) (bytes : List UInt8) :
    f.Searched (buffer ++ bytes) where
  scanned_le := by
    have h := hf.scanned_le
    rw [List.length_append]
    omega
  unbroken := by
    rw [List.take_append_of_le_length hf.scanned_le]
    exact hf.unbroken

/-- A search from where the last one ended has seen everything. -/
theorem Searched.unbroken_buffer (hf : f.Searched buffer)
    (h : (buffer.drop f.scanned).dropWhile (fun b => !isTerminator b) = []) :
    Unbroken buffer := by
  rw [← List.take_append_drop f.scanned buffer]
  exact hf.unbroken.append (unbroken_of_dropWhile_eq_nil h)

/-- A search from where the last one ended finds the first line end of all. -/
theorem Searched.cut (hf : f.Searched buffer)
    (h : (buffer.drop f.scanned).dropWhile (fun b => !isTerminator b) = b :: rest) :
    let line := buffer.take f.scanned ++
      (buffer.drop f.scanned).takeWhile (fun b => !isTerminator b)
    buffer = line ++ b :: rest ∧ Unbroken line ∧ isTerminator b = true := by
  refine ⟨?_, hf.unbroken.append unbroken_takeWhile, isTerminator_of_dropWhile_eq_cons h⟩
  rw [← h, List.append_assoc, List.takeWhile_append_dropWhile, List.take_append_drop]

/-- A complete line that is not empty gets the verdict on its segment. -/
theorem verdicts_judge (hne : line ≠ []) :
    verdicts [judge limit line] = segmentVerdicts limit line := by
  rw [segmentVerdicts, if_neg hne, judge, lineEndLength]
  by_cases hlong : line.length + 2 > limit
  · rw [if_pos hlong, if_pos hlong]
    rfl
  · rw [if_neg hlong, if_neg hlong]
    rfl

/-- Something is found at the end of a line. -/
theorem judge_ne_nothing : judge limit line ≠ .nothing := by
  unfold judge
  split
  · exact Found.noConfusion
  · exact Found.noConfusion

/-- What follows a line end is at the end of the buffer. -/
theorem rest_suffix
    (h : (buffer.drop f.scanned).dropWhile (fun b => !isTerminator b) = b :: rest) :
    rest <:+ buffer := by
  have hunseen : b :: rest <:+ buffer.drop f.scanned := h ▸ List.dropWhile_suffix _
  exact (List.suffix_cons b rest).trans (hunseen.trans (List.drop_suffix _ _))

/-- A call without a line end in the buffer finds the front of what is pending,
whatever bytes are to come. -/
theorem pending_unterminated (hbuffer : Unbroken buffer) (future : List UInt8) :
    f.pending (buffer ++ future) = verdicts [(f.unterminated buffer).found] ++
      (f.unterminated buffer).framer.pending ((f.unterminated buffer).buffer ++ future) := by
  unfold unterminated
  cases hd : f.discarding with
  | true =>
    rw [if_pos rfl, pending_of_discarding hd, afterTerminator_append hbuffer]
    exact (pending_of_discarding (f := ⟨f.limit, 0, true⟩) rfl).symm
  | false =>
    rw [if_neg Bool.false_ne_true, pending_of_not_discarding hd]
    by_cases hlong : buffer.length > f.limit
    · rw [if_pos hlong, expected_of_long hbuffer hlong]
      rfl
    · rw [if_neg hlong]
      exact (pending_of_not_discarding (f := ⟨f.limit, buffer.length, false⟩) rfl).symm

/-- What is pending from a line end on when an overlong line or an empty one ends
there. -/
theorem pending_skip (hline : Unbroken line) (hb : isTerminator b = true)
    (hskip : f.discarding = true ∨ line = []) :
    f.pending (line ++ b :: rest) = expected f.limit rest := by
  cases hd : f.discarding with
  | true =>
    rw [pending_of_discarding hd, afterTerminator_append hline, afterTerminator_cons hb]
  | false =>
    have hempty : line = [] := hskip.resolve_left (Bool.eq_false_iff.mp hd)
    rw [pending_of_not_discarding hd, expected_cut hline hb, hempty]
    rfl

/-- A call finds the front of what is pending and leaves the rest, whatever bytes
are to come. -/
theorem pending_next (hf : f.Searched buffer) (future : List UInt8) :
    f.pending (buffer ++ future) = verdicts [(f.next buffer).found] ++
      (f.next buffer).framer.pending ((f.next buffer).buffer ++ future) := by
  fun_induction next f buffer with
  | case1 f buffer unseen hnil =>
    exact pending_unterminated (hf.unbroken_buffer hnil) future
  | case2 f buffer unseen b rest hcons line after hskip ih =>
    obtain ⟨hbuffer, hline, hb⟩ := hf.cut hcons
    rw [← ih (searched_start rfl), hbuffer, List.append_assoc, List.cons_append]
    rw [Bool.or_eq_true, List.isEmpty_iff] at hskip
    exact pending_skip hline hb hskip
  | case3 f buffer unseen b rest hcons line after hkeep =>
    obtain ⟨hbuffer, hline, hb⟩ := hf.cut hcons
    rw [Bool.or_eq_true, List.isEmpty_iff, not_or, Bool.not_eq_true] at hkeep
    obtain ⟨hd, hne⟩ := hkeep
    rw [hbuffer, List.append_assoc, List.cons_append, pending_of_not_discarding hd,
      expected_cut hline hb, verdicts_judge hne]
    rfl

theorem pending_next_idle (hf : f.Searched buffer) :
    f.pending buffer = verdicts [(f.next buffer).found] ++
      (f.next buffer).framer.pending (f.next buffer).buffer := by
  have h := pending_next hf []
  rwa [List.append_nil, List.append_nil] at h

/-- A call leaves only what it has searched. -/
theorem searched_next (hf : f.Searched buffer) :
    (f.next buffer).framer.Searched (f.next buffer).buffer := by
  fun_induction next f buffer with
  | case1 f buffer unseen hnil =>
    unfold unterminated
    split
    · exact searched_start rfl
    · split
      · exact searched_start rfl
      · refine ⟨Nat.le_refl _, ?_⟩
        rw [List.take_length]
        exact hf.unbroken_buffer hnil
  | case2 f buffer unseen b rest hcons line after hskip ih => exact ih (searched_start rfl)
  | case3 => exact searched_start rfl

/-- A call that finds nothing leaves nothing to be found. -/
theorem pending_of_nothing (hf : f.Searched buffer) (h : (f.next buffer).found = .nothing) :
    (f.next buffer).framer.pending (f.next buffer).buffer = [] := by
  fun_induction next f buffer with
  | case1 f buffer unseen hnil =>
    have hunbroken := hf.unbroken_buffer hnil
    unfold unterminated at h ⊢
    cases hd : f.discarding with
    | true =>
      rw [if_pos rfl]
      exact pending_of_discarding rfl
    | false =>
      rw [hd, if_neg Bool.false_ne_true] at h
      rw [if_neg Bool.false_ne_true]
      by_cases hlong : buffer.length > f.limit
      · rw [if_pos hlong] at h
        cases h
      · rw [if_neg hlong]
        refine (pending_of_not_discarding rfl).trans ?_
        rw [expected_of_unbroken hunbroken, remainderVerdicts, if_neg hlong]
  | case2 f buffer unseen b rest hcons line after hskip ih => exact ih (searched_start rfl) h
  | case3 f buffer unseen b rest hcons line after hkeep =>
    exact absurd h judge_ne_nothing

/-- A call takes bytes off the front of the buffer only. -/
theorem buffer_next_suffix (f : Framer) (buffer : List UInt8) :
    (f.next buffer).buffer <:+ buffer := by
  fun_induction next f buffer with
  | case1 f buffer unseen hnil =>
    unfold unterminated
    split
    · exact List.nil_suffix
    · split
      · exact List.nil_suffix
      · exact List.suffix_rfl
  | case2 f buffer unseen b rest hcons line after hskip ih => exact ih.trans (rest_suffix hcons)
  | case3 f buffer unseen b rest hcons line after hkeep => exact rest_suffix hcons

/-- A call that finds nothing leaves no line end. -/
theorem unbroken_next (hf : f.Searched buffer) (h : (f.next buffer).found = .nothing) :
    Unbroken (f.next buffer).buffer := by
  fun_induction next f buffer with
  | case1 f buffer unseen hnil =>
    unfold unterminated
    split
    · exact unbroken_nil
    · split
      · exact unbroken_nil
      · exact hf.unbroken_buffer hnil
  | case2 f buffer unseen b rest hcons line after hskip ih => exact ih (searched_start rfl) h
  | case3 f buffer unseen b rest hcons line after hkeep => exact absurd h judge_ne_nothing

/-! ## Whole schedules -/

/-- One turn of whoever reads from the connection. -/
inductive Turn where
  /-- Bytes arrive and are put at the end of the buffer. -/
  | arrive (bytes : List UInt8)
  /-- The framer is called once. -/
  | call
deriving DecidableEq, Repr

/-- All the bytes that arrive. -/
def arrived : List Turn → List UInt8
  | [] => []
  | .arrive bytes :: turns => bytes ++ arrived turns
  | .call :: turns => arrived turns

/-- What the calls of a schedule find, and the calls after it that go on until
nothing is found. -/
def play (f : Framer) (buffer : List UInt8) : List Turn → List Found
  | [] => (f.drain buffer).found
  | .arrive bytes :: turns => play f (buffer ++ bytes) turns
  | .call :: turns =>
    (f.next buffer).found :: play (f.next buffer).framer (f.next buffer).buffer turns

/-- Calls that go on until nothing is found find everything that is pending. -/
theorem verdicts_drain (hf : f.Searched buffer) :
    verdicts (f.drain buffer).found = f.pending buffer := by
  fun_induction drain f buffer with
  | case1 f buffer r h =>
    rw [pending_next_idle hf, pending_of_nothing hf h, h]
    rfl
  | case2 f buffer r h rest ih =>
    rw [verdicts_cons, pending_next_idle hf, ih (searched_next hf)]

/-- A schedule finds what is pending in the buffer and the bytes that arrive. -/
theorem verdicts_play (turns : List Turn) (hf : f.Searched buffer) :
    verdicts (f.play buffer turns) = f.pending (buffer ++ arrived turns) := by
  induction turns generalizing f buffer with
  | nil =>
    rw [arrived, List.append_nil]
    exact verdicts_drain hf
  | cons turn turns ih =>
    cases turn with
    | arrive bytes =>
      rw [play, arrived, ih (hf.append bytes), List.append_assoc]
    | call =>
      rw [play, arrived, pending_next hf, ← ih (searched_next hf), verdicts_cons]

/-- In whatever pieces a stream arrives and however often the framer is called in
between, it reports what the cut of the whole stream at its terminators says. -/
theorem verdicts_schedule (limit : Nat) (turns : List Turn) :
    verdicts (play (withLimit limit) [] turns) = expected limit (arrived turns) :=
  verdicts_play turns (searched_start rfl)

/-! ## The lines alone -/

/-- The text of a line that is not too long. -/
def Verdict.text? : Verdict → Option String
  | .line text => some text
  | .tooLong _ => none

/-- The texts among some verdicts, in order. -/
def texts (verdicts : List Verdict) : List String :=
  verdicts.filterMap Verdict.text?

/-- All lines of a stream that are not too long, as texts. -/
def expectedLines (limit : Nat) (bytes : List UInt8) : List String :=
  texts (expected limit bytes)

example : expectedLines 6 "ab\r\nabcde\n\ncd\nef".toUTF8.toList = ["ab", "cd"] := by
  decide +kernel

theorem expectedLines_nil (limit : Nat) : expectedLines limit [] = [] := by
  rw [expectedLines, expected_nil]
  rfl

theorem texts_append (first second : List Verdict) :
    texts (first ++ second) = texts first ++ texts second :=
  List.filterMap_append

theorem lines_eq_texts (found : List Found) : lines found = texts (verdicts found) := by
  rw [lines, texts, verdicts, List.filterMap_filterMap]
  refine congrArg (List.filterMap · found) (funext fun one => ?_)
  cases one <;> rfl

/-- Calls that go on until nothing is found leave what is pending in the bytes to come. -/
theorem pending_drain (hf : f.Searched buffer) (future : List UInt8) :
    f.pending (buffer ++ future) = verdicts (f.drain buffer).found ++
      (f.drain buffer).framer.pending ((f.drain buffer).buffer ++ future) := by
  fun_induction drain f buffer with
  | case1 f buffer r h =>
    rw [pending_next hf future, h]
    rfl
  | case2 f buffer r h rest ih =>
    rw [pending_next hf future, ih (searched_next hf), ← List.append_assoc, ← verdicts_cons]

/-- They leave only what has been searched. -/
theorem searched_drain (hf : f.Searched buffer) :
    (f.drain buffer).framer.Searched (f.drain buffer).buffer := by
  fun_induction drain f buffer with
  | case1 f buffer r h => exact searched_next hf
  | case2 f buffer r h rest ih => exact ih (searched_next hf)

/-- They leave nothing to be found. -/
theorem pending_drain_eq_nil (hf : f.Searched buffer) :
    (f.drain buffer).framer.pending (f.drain buffer).buffer = [] := by
  have hall := pending_drain hf []
  rw [List.append_nil, List.append_nil, verdicts_drain hf] at hall
  exact List.self_eq_append_right.mp hall

/-- They take bytes off the front of the buffer only. -/
theorem buffer_drain_suffix (f : Framer) (buffer : List UInt8) :
    (f.drain buffer).buffer <:+ buffer := by
  fun_induction drain f buffer with
  | case1 f buffer r h => exact buffer_next_suffix f buffer
  | case2 f buffer r h rest ih => exact ih.trans (buffer_next_suffix f buffer)

/-- They leave no line end. -/
theorem unbroken_drain (hf : f.Searched buffer) : Unbroken (f.drain buffer).buffer := by
  fun_induction drain f buffer with
  | case1 f buffer r h => exact unbroken_next hf h
  | case2 f buffer r h rest ih => exact ih (searched_next hf)

/-- More bytes give more verdicts and leave those that there are. -/
theorem expected_begins (limit : Nat) (bytes more : List UInt8) :
    expected limit bytes <+: expected limit (bytes ++ more) := by
  have hstart : (withLimit limit).Searched bytes := searched_start rfl
  have hall : expected limit (bytes ++ more) = _ := pending_drain hstart more
  have hfound : verdicts ((withLimit limit).drain bytes).found = expected limit bytes :=
    verdicts_drain hstart
  rw [hall, hfound]
  exact List.prefix_append _ _

theorem expectedLines_begins (limit : Nat) (bytes more : List UInt8) :
    expectedLines limit bytes <+: expectedLines limit (bytes ++ more) :=
  (expected_begins limit bytes more).filterMap Verdict.text?

/-- The lines taken off make up, with those still to come, all that are pending. -/
theorem texts_pending_drain (hf : f.Searched buffer) (bytes future : List UInt8) :
    texts (f.pending (buffer ++ (bytes ++ future))) =
      lines (f.drain (buffer ++ bytes)).found ++
        texts ((f.drain (buffer ++ bytes)).framer.pending
          ((f.drain (buffer ++ bytes)).buffer ++ future)) := by
  rw [← List.append_assoc, pending_drain (hf.append bytes) future, texts_append, lines_eq_texts]

/-- Without bytes to come they are all that are pending. -/
theorem lines_drain (hf : f.Searched buffer) :
    lines (f.drain buffer).found = texts (f.pending buffer) := by
  rw [lines_eq_texts, verdicts_drain hf]

end Framer

end RelayChat
