import RelayChat.Proofs.TextBytes

/-!
# Outbound traffic is framed as it was written

What the relay writes can be read with its own framer. A message of one line, not above the
limit, becomes bytes without a line end with a carriage return and a line feed behind them.
The first of these ends the line and the second ends an empty one, so the message is found
once and as the text that it was (`expected_message`). Messages in a row are found one after
the other, in whatever pieces their bytes arrive, and since the last byte is a line end
nothing stays in the buffer (`traffic_frames_back`).
-/

namespace RelayChat

namespace Framer

/-! ## Pieces of a stream -/

/-- Puts pieces at the end of the buffer one after the other, and takes everything off that is
complete each time. -/
def feed (f : Framer) (buffer : List UInt8) : List (List UInt8) → Drained
  | [] => ⟨f, buffer, []⟩
  | chunk :: chunks =>
    let first := f.drain (buffer ++ chunk)
    let rest := feed first.framer first.buffer chunks
    ⟨rest.framer, rest.buffer, first.found ++ rest.found⟩

variable {f : Framer} {buffer bytes rest : List UInt8} {limit : Nat}

/-- However a stream is cut, what is found is what is pending in it. -/
theorem verdicts_feed (chunks : List (List UInt8)) (hf : f.Searched buffer)
    (hnothing : f.pending buffer = []) :
    verdicts (f.feed buffer chunks).found = f.pending (buffer ++ chunks.flatten) := by
  induction chunks generalizing f buffer with
  | nil =>
    rw [List.flatten_nil, List.append_nil, hnothing]
    rfl
  | cons chunk chunks ih =>
    have hchunk : f.Searched (buffer ++ chunk) := hf.append chunk
    have hrest := ih (searched_drain hchunk) (pending_drain_eq_nil hchunk)
    rw [feed, verdicts_append, hrest, List.flatten_cons, ← List.append_assoc,
      pending_drain hchunk chunks.flatten]

/-- What is left is the end of the stream, and there is no line end in it. -/
theorem feed_leaves (chunks : List (List UInt8)) (hf : f.Searched buffer)
    (hbuffer : Unbroken buffer) :
    (f.feed buffer chunks).buffer <:+ buffer ++ chunks.flatten ∧
      Unbroken (f.feed buffer chunks).buffer := by
  induction chunks generalizing f buffer with
  | nil =>
    rw [List.flatten_nil, List.append_nil]
    exact ⟨List.suffix_rfl, hbuffer⟩
  | cons chunk chunks ih =>
    have hchunk : f.Searched (buffer ++ chunk) := hf.append chunk
    obtain ⟨hsuffix, hunbroken⟩ := ih (searched_drain hchunk) (unbroken_drain hchunk)
    obtain ⟨taken, htaken⟩ := buffer_drain_suffix f (buffer ++ chunk)
    refine ⟨hsuffix.trans ⟨taken, ?_⟩, hunbroken⟩
    rw [← List.append_assoc, htaken, List.append_assoc, List.flatten_cons]

/-- Nothing without a line end is left of a stream that closes with one. -/
theorem eq_nil_of_unbroken_suffix (hsuffix : rest <:+ bytes) (hrest : Unbroken rest)
    (hlast : ∀ b, bytes.getLast? = some b → isTerminator b = true) : rest = [] := by
  obtain ⟨before, rfl⟩ := hsuffix
  cases hend : rest.getLast? with
  | none => exact List.getLast?_eq_none_iff.mp hend
  | some b =>
    have hterminator := hlast b (by rw [List.getLast?_append, hend, Option.some_or])
    rw [hrest b (List.mem_of_getLast? hend)] at hterminator
    exact absurd hterminator Bool.false_ne_true

/-! ## Messages as bytes -/

open LossyUtf8

variable {message : Message} {messages : List Message}

/-- The bytes of a message are those of its line with a carriage return and a line feed. -/
theorem encode_render (message : Message) :
    encode message.render = encode message.line ++ [13, 10] := by
  have hend : encode Message.lineEnd = [13, 10] := by
    decide +kernel
  rw [Message.render_eq, encode_append, hend]

theorem encode_line_ne_nil (message : Message) : encode message.line ≠ [] := by
  intro h
  have hline : message.line = "" := by
    rw [← decode_encode message.line, h]
    rfl
  exact message.line_ne_empty hline

/-- The first message is found before everything that follows it. -/
theorem expected_message (hlines : message.isBroken = false)
    (hshort : (encode message.render).length ≤ limit) :
    expected limit (encode message.render ++ rest) = .line message.line :: expected limit rest := by
  have hunbroken : Unbroken (encode message.line) := (Message.oneLine_line hlines).unbroken_encode
  have hwithin : ¬(encode message.line).length + 2 > limit := by
    rw [encode_render, List.length_append] at hshort
    exact Nat.not_lt_of_le hshort
  have hverdict : segmentVerdicts limit (encode message.line) = [.line message.line] := by
    rw [segmentVerdicts, if_neg (encode_line_ne_nil message), if_neg hwithin, decode_encode]
  have hfeed : expected limit ([] ++ 10 :: rest) = expected limit rest :=
    expected_cut unbroken_nil rfl
  rw [encode_render, List.append_assoc, List.cons_append, expected_cut hunbroken rfl, hverdict,
    List.singleton_append]
  exact congrArg _ hfeed

theorem expected_traffic (hlines : ∀ message ∈ messages, message.isBroken = false)
    (hshort : ∀ message ∈ messages, (encode message.render).length ≤ limit) :
    expected limit (messages.flatMap fun message => encode message.render) =
      messages.map fun message => .line message.line := by
  induction messages with
  | nil => exact expected_nil limit
  | cons message messages ih =>
    rw [List.forall_mem_cons] at hlines hshort
    rw [List.flatMap_cons, expected_message hlines.1 hshort.1, ih hlines.2 hshort.2, List.map_cons]

/-- The last byte of all is a line end. -/
theorem isTerminator_of_getLast?_traffic {b : UInt8}
    (h : (messages.flatMap fun message => encode message.render).getLast? = some b) :
    isTerminator b = true := by
  induction messages with
  | nil => cases h
  | cons message messages ih =>
    rw [List.flatMap_cons, List.getLast?_append, encode_render, List.getLast?_append] at h
    cases hrest : (messages.flatMap fun message => encode message.render).getLast? with
    | none =>
      rw [hrest] at h
      cases h
      rfl
    | some last =>
      rw [hrest] at h
      cases h
      exact ih hrest

/-- Messages of one line each, none of them above the limit, are found one after the other
as the lines that were written, in whatever pieces their bytes arrive. Nothing else is found
and nothing is left. -/
theorem traffic_frames_back (messages : List Message) (chunks : List (List UInt8))
    (hlines : ∀ message ∈ messages, message.isBroken = false)
    (hshort : ∀ message ∈ messages, (encode message.render).length ≤ standardLimit)
    (hchunks : chunks.flatten = messages.flatMap fun message => encode message.render) :
    verdicts (standard.feed [] chunks).found =
        messages.map (fun message => .line message.line) ∧
      (standard.feed [] chunks).buffer = [] := by
  have hstart : standard.Searched [] := searched_start rfl
  constructor
  · rw [verdicts_feed chunks hstart (expected_nil standardLimit), List.nil_append, hchunks]
    exact expected_traffic hlines hshort
  · obtain ⟨hsuffix, hunbroken⟩ := feed_leaves chunks hstart unbroken_nil
    refine eq_nil_of_unbroken_suffix hsuffix hunbroken fun b hb => ?_
    rw [List.nil_append, hchunks] at hb
    exact isTerminator_of_getLast?_traffic hb

/-- Two messages whose bytes arrive one by one. -/
theorem traffic_frames_back_bytewise :
    let messages : List Message := [.ofBody (.pong "relay" "grüße"), .ofBody (.error "")]
    let bytes := messages.flatMap fun message => encode message.render
    verdicts (standard.feed [] (bytes.map fun b => [b])).found =
        [.line "PONG relay :grüße", .line "ERROR :"] ∧
      (standard.feed [] (bytes.map fun b => [b])).buffer = [] := by
  intro messages bytes
  exact traffic_frames_back messages (bytes.map fun b => [b]) (by decide +kernel)
    (by decide +kernel) (by decide +kernel)

end Framer

end RelayChat
