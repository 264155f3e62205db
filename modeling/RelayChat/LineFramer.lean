import RelayChat.LossyUtf8

/-!
# Cutting a byte stream into lines

Bytes arrive in arbitrary pieces and are gathered in a buffer. A `Framer` takes
complete lines off the front of it. Every carriage return and every line feed
ends a line, empty lines are skipped, and a line that is longer than the limit
is reported once and dropped whole. Between two calls the framer remembers how
far the buffer has been searched and whether the rest of an overlong line is
still to be dropped.
-/

namespace RelayChat

/-- A line, or the part of a line that was seen, has more bytes than allowed. -/
structure LineTooLong where
  /-- The bytes counted, room for a line end included when the line ended. -/
  actual : Nat
  /-- The bytes allowed. -/
  limit : Nat
deriving DecidableEq, Repr

namespace LineTooLong

/-- The error as text. -/
def message (e : LineTooLong) : String :=
  "message too long: " ++ toString e.actual ++ " bytes (limit: " ++ toString e.limit ++ ")"

end LineTooLong

/-- What the search for lines remembers between two calls. -/
structure Framer where
  /-- The most bytes that a line may have, its line end included. -/
  limit : Nat
  /-- How many bytes of the buffer are known to hold no line end. -/
  scanned : Nat
  /-- Whether the bytes up to the next line end belong to an overlong line. -/
  discarding : Bool
deriving DecidableEq, Repr

namespace Framer

/-- The limit that holds unless another one is chosen. -/
def standardLimit : Nat := 512

/-- A framer before the first byte. -/
def withLimit (limit : Nat) : Framer := ⟨limit, 0, false⟩

/-- A framer with the standard limit, before the first byte. -/
def standard : Framer := withLimit standardLimit

/-- Room that a line must leave for its line end. -/
def lineEndLength : Nat := 2

/-- Carriage return and line feed end a line. -/
def isTerminator (b : UInt8) : Bool :=
  b == 13 || b == 10

/-- What one call found. -/
inductive Found where
  /-- The bytes of a complete line, without its line end. -/
  | line (bytes : List UInt8)
  /-- An overlong line. -/
  | tooLong (error : LineTooLong)
  /-- No complete line is buffered. -/
  | nothing
deriving DecidableEq, Repr

/-- The framer and the buffer after one call, and what the call found. -/
structure Result where
  /-- What to go on with. -/
  framer : Framer
  /-- The bytes that are left. -/
  buffer : List UInt8
  /-- What was found. -/
  found : Found
deriving DecidableEq, Repr

/-- The call when no line end is buffered: the rest of an overlong line is
dropped, a buffer above the limit is reported and dropped, and any other buffer
waits for more bytes. -/
def unterminated (f : Framer) (buffer : List UInt8) : Result :=
  if f.discarding then ⟨{ f with scanned := 0 }, [], .nothing⟩
  else if buffer.length > f.limit then
    ⟨{ f with scanned := 0, discarding := true }, [], .tooLong ⟨buffer.length, f.limit⟩⟩
  else ⟨{ f with scanned := buffer.length }, buffer, .nothing⟩

/-- What a non-empty line is, by its length with room for the line end. -/
def judge (limit : Nat) (line : List UInt8) : Found :=
  if line.length + lineEndLength > limit then .tooLong ⟨line.length + lineEndLength, limit⟩
  else .line line

/-- Takes the next complete line off the buffer. -/
def next (f : Framer) (buffer : List UInt8) : Result :=
  let unseen := buffer.drop f.scanned
  match _h : unseen.dropWhile (fun b => !isTerminator b) with
  | [] => unterminated f buffer
  | _ :: rest =>
    let line := buffer.take f.scanned ++ unseen.takeWhile (fun b => !isTerminator b)
    let after : Framer := { f with scanned := 0, discarding := false }
    if f.discarding || line.isEmpty then next after rest
    else ⟨after, rest, judge f.limit line⟩
termination_by buffer.length
decreasing_by
  have hle := (List.dropWhile_sublist (fun b => !isTerminator b)
    (l := buffer.drop f.scanned)).length_le
  have hlen : (buffer.drop f.scanned).length ≤ buffer.length := by simp
  rw [_h] at hle
  simp only [List.length_cons] at hle
  omega

/-- A call that finds something shortens the buffer. -/
theorem next_buffer_lt (f : Framer) (buffer : List UInt8) :
    (f.next buffer).found ≠ .nothing → (f.next buffer).buffer.length < buffer.length := by
  fun_induction next f buffer with
  | case1 f buffer _ _ =>
    intro h
    unfold unterminated at h ⊢
    split at h <;> rename_i hd
    · exact absurd rfl h
    · rw [if_neg hd]
      split at h <;> rename_i hl
      · rw [if_pos hl]
        simp only [List.length_nil]
        omega
      · exact absurd rfl h
  | case2 f buffer unseen _ rest hrest line after hskip ih =>
    intro h
    have hle := (List.dropWhile_sublist (fun b => !isTerminator b) (l := unseen)).length_le
    have hlen : unseen.length ≤ buffer.length := by simp [unseen]
    rw [hrest] at hle
    simp only [List.length_cons] at hle
    have := ih h
    omega
  | case3 f buffer unseen _ rest hrest line after hkeep =>
    intro _
    have hle := (List.dropWhile_sublist (fun b => !isTerminator b) (l := unseen)).length_le
    have hlen : unseen.length ≤ buffer.length := by simp [unseen]
    rw [hrest] at hle
    simp only [List.length_cons] at hle
    show rest.length < buffer.length
    omega

/-- The framer and the buffer when all that is complete has been taken off, and
what was found on the way. -/
structure Drained where
  /-- What to go on with. -/
  framer : Framer
  /-- The bytes that are left. -/
  buffer : List UInt8
  /-- What was found, in order. -/
  found : List Found
deriving DecidableEq, Repr

/-- Takes everything off the buffer that is complete. -/
def drain (f : Framer) (buffer : List UInt8) : Drained :=
  let r := f.next buffer
  if _h : r.found = .nothing then ⟨r.framer, r.buffer, []⟩
  else
    let rest := drain r.framer r.buffer
    ⟨rest.framer, rest.buffer, r.found :: rest.found⟩
termination_by buffer.length
decreasing_by exact next_buffer_lt f buffer _h

/-- The lines among what was found, as text. -/
def lines (found : List Found) : List String :=
  found.filterMap fun
    | .line bytes => some (LossyUtf8.decode bytes)
    | _ => none

end Framer

end RelayChat
