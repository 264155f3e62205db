import RelayChat.Proofs.LineSegments

/-!
# Calls of a framer

A call of a framer searches the buffer for a line end, and searches again in the rest when what
it found is to be skipped (`pass`). In whatever pieces bytes arrive and however often the
framer is called between them, every search begins within the buffer, and there is no line end
before the place where it begins (`searched_of_searches`). A call that finds nothing leaves no
line end and no more bytes than the limit (`length_next_le`). A call that finds something
shortens the buffer, so that calls find nothing after as many of them as there are bytes
(`drain_calls`), and reading one line ends as soon (`nextLine_calls`).
-/

namespace RelayChat

namespace Framer

variable {f f' : Framer} {buffer buffer' : List UInt8} {limit : Nat} {line : String}

/-! ## The searches of a call -/

/-- What comes of one search for a line end. -/
inductive Pass where
  /-- The call has a result. -/
  | over (result : Result)
  /-- What was found is skipped, and the rest is searched. -/
  | again (framer : Framer) (buffer : List UInt8)
deriving DecidableEq, Repr

/-- One search for a line end, from where the last one ended. -/
def pass (f : Framer) (buffer : List UInt8) : Pass :=
  let unseen := buffer.drop f.scanned
  match unseen.dropWhile (fun b => !isTerminator b) with
  | [] => .over (unterminated f buffer)
  | _ :: rest =>
    let line := buffer.take f.scanned ++ unseen.takeWhile (fun b => !isTerminator b)
    let after : Framer := { f with scanned := 0, discarding := false }
    if f.discarding || line.isEmpty then .again after rest
    else .over ⟨after, rest, judge f.limit line⟩

/-- A call searches until there is a result. -/
theorem next_eq_pass (f : Framer) (buffer : List UInt8) :
    f.next buffer = match f.pass buffer with
      | .over result => result
      | .again after rest => after.next rest := by
  rw [next, pass]
  dsimp only
  split
  · rename_i hnil
    rw [hnil]
  · rename_i hcons
    rw [hcons]
    dsimp only
    split <;> rfl

/-- In the course of a call on one buffer, a search begins in another one. -/
inductive Searches : Framer → List UInt8 → Framer → List UInt8 → Prop where
  /-- The buffer itself is searched. -/
  | first {f : Framer} {buffer : List UInt8} : Searches f buffer f buffer
  /-- So is what is searched after something was skipped. -/
  | again {f after f' : Framer} {buffer rest buffer' : List UInt8}
      (hskip : f.pass buffer = .again after rest) (hrest : Searches after rest f' buffer') :
      Searches f buffer f' buffer'

/-- After something was skipped the search begins at the front. -/
theorem scanned_of_pass (h : f.pass buffer = .again f' buffer') : f'.scanned = 0 := by
  rw [pass] at h
  dsimp only at h
  split at h
  · cases h
  · split at h
    · cases h
      rfl
    · cases h

/-- Every search of a call begins within the buffer, where there is no line end before. -/
theorem searched_of_searches (h : Searches f buffer f' buffer') (hf : f.Searched buffer) :
    f'.Searched buffer' := by
  induction h with
  | first => exact hf
  | again hskip _ ih => exact ih (searched_start (scanned_of_pass hskip))

/-! ## Schedules of pieces and calls -/

/-- The framer and the buffer after a schedule. -/
def reach (f : Framer) (buffer : List UInt8) : List Turn → Framer × List UInt8
  | [] => (f, buffer)
  | .arrive bytes :: turns => reach f (buffer ++ bytes) turns
  | .call :: turns => reach (f.next buffer).framer (f.next buffer).buffer turns

theorem limit_next (f : Framer) (buffer : List UInt8) :
    (f.next buffer).framer.limit = f.limit := by
  fun_induction next f buffer with
  | case1 f buffer =>
    unfold unterminated
    split
    · rfl
    · split <;> rfl
  | case2 f buffer unseen b rest hcons line after hskip ih => exact ih
  | case3 => rfl

theorem searched_reach (turns : List Turn) (hf : f.Searched buffer) :
    (f.reach buffer turns).1.Searched (f.reach buffer turns).2 := by
  induction turns generalizing f buffer with
  | nil => exact hf
  | cons turn turns ih =>
    cases turn with
    | arrive bytes => exact ih (hf.append bytes)
    | call => exact ih (searched_next hf)

theorem limit_reach (turns : List Turn) (f : Framer) (buffer : List UInt8) :
    (f.reach buffer turns).1.limit = f.limit := by
  induction turns generalizing f buffer with
  | nil => rfl
  | cons turn turns ih =>
    cases turn with
    | arrive bytes => exact ih f (buffer ++ bytes)
    | call => exact (ih _ _).trans (limit_next f buffer)

/-! ## Calls that find nothing -/

/-- A call that finds nothing leaves no more bytes than the limit. -/
theorem length_next_le (h : (f.next buffer).found = .nothing) :
    (f.next buffer).buffer.length ≤ f.limit := by
  fun_induction next f buffer with
  | case1 f buffer =>
    unfold unterminated at h ⊢
    split
    · exact Nat.zero_le _
    · rename_i hkeep
      rw [if_neg hkeep] at h
      split
      · exact Nat.zero_le _
      · rename_i hshort
        exact Nat.le_of_not_lt hshort
  | case2 f buffer unseen b rest hcons line after hskip ih => exact ih h
  | case3 => exact absurd h judge_ne_nothing

/-- There is nothing new to be found where everything has been searched. -/
theorem next_of_length_le (h : buffer.length ≤ f.scanned) :
    f.next buffer = f.unterminated buffer := by
  rw [next_eq_pass, pass, List.drop_eq_nil_of_le h]
  rfl

/-- Without more bytes the next call does the same. -/
theorem next_next_of_nothing (h : (f.next buffer).found = .nothing) :
    (f.next buffer).framer.next (f.next buffer).buffer = f.next buffer := by
  fun_induction next f buffer with
  | case1 f buffer =>
    unfold unterminated at h ⊢
    split
    · rename_i hd
      rw [next_of_length_le (Nat.zero_le _), unterminated, if_pos hd]
    · rename_i hkeep
      rw [if_neg hkeep] at h
      split
      · rename_i hlong
        rw [if_pos hlong] at h
        cases h
      · rename_i hshort
        rw [next_of_length_le (Nat.le_refl _), unterminated, if_neg hkeep, if_neg hshort]
  | case2 f buffer unseen b rest hcons line after hskip ih => exact ih h
  | case3 => exact absurd h judge_ne_nothing

theorem drain_of_nothing (h : (f.next buffer).found = .nothing) :
    f.drain buffer = ⟨(f.next buffer).framer, (f.next buffer).buffer, []⟩ := by
  rw [drain, dif_pos h]

theorem drain_of_found (h : (f.next buffer).found ≠ .nothing) :
    f.drain buffer =
      let rest := (f.next buffer).framer.drain (f.next buffer).buffer
      ⟨rest.framer, rest.buffer, (f.next buffer).found :: rest.found⟩ := by
  rw [drain, dif_neg h]

/-- Calls that went on until nothing was found need not be made again. -/
theorem drain_drain (f : Framer) (buffer : List UInt8) :
    (f.drain buffer).framer.drain (f.drain buffer).buffer =
      ⟨(f.drain buffer).framer, (f.drain buffer).buffer, []⟩ := by
  fun_induction drain f buffer with
  | case1 f buffer r h =>
    have hsame : r.framer.next r.buffer = r := next_next_of_nothing h
    rw [drain_of_nothing (by rw [hsame, h]), hsame]
  | case2 f buffer r h rest ih => exact ih

/-- Calls that go on until nothing is found leave no more bytes than the limit. -/
theorem length_drain_le (f : Framer) (buffer : List UInt8) :
    (f.drain buffer).buffer.length ≤ f.limit := by
  fun_induction drain f buffer with
  | case1 f buffer r h => exact length_next_le h
  | case2 f buffer r h rest ih =>
    rw [limit_next] at ih
    exact ih

/-! ## Calls in a row -/

/-- What a call finds that comes after so many calls. -/
def foundBy (f : Framer) (buffer : List UInt8) (calls : Nat) : Found :=
  let before := f.reach buffer (List.replicate calls .call)
  (before.1.next before.2).found

/-- As many calls as there are bytes, and one, find all that is found by calls. -/
theorem drain_calls (f : Framer) (buffer : List UInt8) :
    ∃ n ≤ buffer.length,
      (∀ k < n, f.foundBy buffer k ≠ .nothing) ∧ f.foundBy buffer n = .nothing ∧
      (f.drain buffer).found = (List.range n).map (f.foundBy buffer) ∧
      ((f.drain buffer).framer, (f.drain buffer).buffer) =
        f.reach buffer (List.replicate (n + 1) .call) := by
  fun_induction drain f buffer with
  | case1 f buffer r h =>
    exact ⟨0, Nat.zero_le _, fun k hk => absurd hk (Nat.not_lt_zero k), h, rfl, rfl⟩
  | case2 f buffer r h rest ih =>
    obtain ⟨n, hn, hfound, hnothing, hdrain, hreach⟩ := ih
    have hless : r.buffer.length < buffer.length := next_buffer_lt f buffer h
    refine ⟨n + 1, by omega, fun k hk => ?_, hnothing, ?_, hreach⟩
    · cases k with
      | zero => exact h
      | succ k => exact hfound k (by omega)
    · rw [List.range_succ_eq_map, List.map_cons, List.map_map, hdrain]
      rfl

/-! ## One line at a time -/

/-- The text of a line that was found. -/
def Found.text? : Found → Option String
  | .line bytes => some (LossyUtf8.decode bytes)
  | _ => none

/-- The framer and the buffer when a line has been read, and the line if there is one. -/
structure Reading where
  /-- What to go on with. -/
  framer : Framer
  /-- The bytes that are left. -/
  buffer : List UInt8
  /-- The line. -/
  line : Option String
deriving DecidableEq, Repr

/-- Reads one line. Those that are too long are passed over. -/
def nextLine (f : Framer) (buffer : List UInt8) : Reading :=
  let r := f.next buffer
  match _h : r.found with
  | .nothing => ⟨r.framer, r.buffer, none⟩
  | .line bytes => ⟨r.framer, r.buffer, some (LossyUtf8.decode bytes)⟩
  | .tooLong _ => nextLine r.framer r.buffer
termination_by buffer.length
decreasing_by
  refine next_buffer_lt f buffer ?_
  rw [_h]
  exact Found.noConfusion

/-- What every call leaves true is true when a line has been read. -/
theorem nextLine_keeps {P : Framer → List UInt8 → Prop}
    (hcall : ∀ f buffer, P f buffer → P (f.next buffer).framer (f.next buffer).buffer)
    (h : P f buffer) : P (f.nextLine buffer).framer (f.nextLine buffer).buffer := by
  fun_induction nextLine f buffer with
  | case1 f buffer => exact hcall f buffer h
  | case2 f buffer => exact hcall f buffer h
  | case3 f buffer r error hr ih => exact ih (hcall f buffer h)

/-- The calls go on until one finds no overlong line, and there are no more of them than there
are bytes, and one. -/
theorem nextLine_calls (f : Framer) (buffer : List UInt8) :
    ∃ n ≤ buffer.length,
      (∀ k < n, ∃ error, f.foundBy buffer k = .tooLong error) ∧
      (∀ error, f.foundBy buffer n ≠ .tooLong error) ∧
      (f.nextLine buffer).line = (f.foundBy buffer n).text? ∧
      ((f.nextLine buffer).framer, (f.nextLine buffer).buffer) =
        f.reach buffer (List.replicate (n + 1) .call) := by
  fun_induction nextLine f buffer with
  | case1 f buffer r h =>
    have hfound : f.foundBy buffer 0 = .nothing := h
    refine ⟨0, Nat.zero_le _, fun k hk => absurd hk (Nat.not_lt_zero k), fun error => ?_, ?_, rfl⟩
    · rw [hfound]
      exact Found.noConfusion
    · rw [hfound]
      rfl
  | case2 f buffer r bytes h =>
    have hfound : f.foundBy buffer 0 = .line bytes := h
    refine ⟨0, Nat.zero_le _, fun k hk => absurd hk (Nat.not_lt_zero k), fun error => ?_, ?_, rfl⟩
    · rw [hfound]
      exact Found.noConfusion
    · rw [hfound]
      rfl
  | case3 f buffer r error h ih =>
    obtain ⟨n, hn, hlong, hother, hline, hreach⟩ := ih
    have hless : r.buffer.length < buffer.length := by
      refine next_buffer_lt f buffer ?_
      rw [h]
      exact Found.noConfusion
    refine ⟨n + 1, by omega, fun k hk => ?_, hother, hline, hreach⟩
    cases k with
    | zero => exact ⟨error, h⟩
    | succ k => exact hlong k (by omega)

/-- When no line is read all that is found by calls has been found, and there was no line. -/
theorem nextLine_eq_none (h : (f.nextLine buffer).line = none) :
    lines (f.drain buffer).found = [] ∧
      (f.nextLine buffer).framer = (f.drain buffer).framer ∧
      (f.nextLine buffer).buffer = (f.drain buffer).buffer := by
  fun_induction nextLine f buffer with
  | case1 f buffer r hr =>
    rw [drain_of_nothing hr]
    exact ⟨rfl, rfl, rfl⟩
  | case2 f buffer r bytes hr => cases h
  | case3 f buffer r error hr ih =>
    have hfound : (f.next buffer).found ≠ .nothing := by
      rw [hr]
      exact Found.noConfusion
    obtain ⟨hnone, hframer, hbuffer⟩ := ih h
    rw [drain_of_found hfound, hr]
    exact ⟨hnone, hframer, hbuffer⟩

/-- A line that is read is the first one that calls find. They find the others in the rest,
which is shorter. -/
theorem nextLine_eq_some (h : (f.nextLine buffer).line = some line) :
    let after := (f.nextLine buffer).framer.drain (f.nextLine buffer).buffer
    lines (f.drain buffer).found = line :: lines after.found ∧
      after.framer = (f.drain buffer).framer ∧ after.buffer = (f.drain buffer).buffer ∧
      (f.nextLine buffer).buffer.length < buffer.length := by
  fun_induction nextLine f buffer with
  | case1 f buffer r hr => cases h
  | case2 f buffer r bytes hr =>
    have hfound : (f.next buffer).found ≠ .nothing := by
      rw [hr]
      exact Found.noConfusion
    cases h
    rw [drain_of_found hfound, hr]
    exact ⟨rfl, rfl, rfl, next_buffer_lt f buffer hfound⟩
  | case3 f buffer r error hr ih =>
    have hfound : (f.next buffer).found ≠ .nothing := by
      rw [hr]
      exact Found.noConfusion
    obtain ⟨hlines, hframer, hbuffer, hless⟩ := ih h
    rw [drain_of_found hfound, hr]
    exact ⟨hlines, hframer, hbuffer, Nat.lt_trans hless (next_buffer_lt f buffer hfound)⟩

end Framer

end RelayChat
