import RelayChat.Proofs.MessageLines

/-!
# Messages are read back as they were meant

A message goes out as an origin, a word and parameters, and is read like any command line.
Reading skips the origin and finds the word. Behind it the parameters stand as they were
written (`parse?_render_eq`): one that is a word is taken off with the space before it, and
one that is free text loses its colon and nothing else (`readFreeText_renderFreeText`). A
channel alone is written as a word or as free text, by what it looks like, and its first
character tells which it was (`firstParameter_renderWords`).
-/

namespace RelayChat

namespace Words

/-- A text that is nothing, or begins with a space. -/
def Apart (text : String) : Prop :=
  ∀ c, text.toList.head? = some c → c = ' '

/-- A text without its leading spaces. -/
def dropSpaces (s : String) : String :=
  String.ofList (s.toList.dropWhile (· == ' '))

/-- Takes as many words off a text as there are said to be, and the rest as free text. -/
def readFreeText : Nat → String → List String
  | 0, s => [trailing s]
  | n + 1, s => (split s).1 :: readFreeText n (split s).2

variable {name text : String}

theorem apart_empty : Apart "" := by
  intro c hc
  rw [String.toList_empty] at hc
  cases hc

theorem toList_space_append (text : String) : (" " ++ text).toList = ' ' :: text.toList := by
  simp

theorem apart_space (text : String) : Apart (" " ++ text) := by
  intro c hc
  rw [toList_space_append] at hc
  exact (Option.some.inj hc).symm

/-- The space and the colon in front of free text. -/
theorem freeText_eq (text : String) : " :" ++ text = " " ++ (":" ++ text) :=
  String.toList_inj.mp (by simp)

theorem dropSpaces_space (h : text.toList.head? ≠ some ' ') : dropSpaces (" " ++ text) = text := by
  rw [dropSpaces, toList_space_append, List.dropWhile_cons_of_pos (by decide),
    dropWhile_space_of_head? h, String.ofList_toList]

/-- A word is taken off a text that stands apart from it. -/
theorem split_append (hname : IsWord name.toList) (htext : Apart text) :
    split (name ++ text) = (name, dropSpaces text) := by
  rw [split, String.toList_append, splitChars_append hname htext, String.ofList_toList, dropSpaces]

/-- A word is the first word of itself. -/
theorem split_word (hname : IsWord name.toList) : (split name).1 = name := by
  have h := split_append hname apart_empty
  rw [String.append_empty] at h
  rw [h]

/-- A word that begins without a colon is a parameter as it stands. -/
theorem firstParameter_word (hname : IsWord name.toList) (hcolon : name.toList.head? ≠ some ':') :
    firstParameter name = name := by
  rw [firstParameter, if_neg hcolon, split_word hname]

end Words

/-! ## Parameters -/

namespace Body

open Words

variable {args : List String} {channel : String}

theorem apart_renderFreeText (args : List String) : Apart (renderFreeText args) := by
  fun_cases renderFreeText args with
  | case1 => exact apart_empty
  | case2 last =>
    rw [freeText_eq]
    exact apart_space _
  | case3 arg rest hne =>
    rw [String.append_assoc]
    exact apart_space _

theorem apart_renderWords (channel : String) : Apart (renderWords [channel]) := by
  rw [renderWords]
  split
  · rw [freeText_eq]
    exact apart_space _
  · exact apart_space _

/-- The parameters stand apart from the word. -/
theorem apart_renderParameters (body : Body) : Apart body.renderParameters := by
  cases body with
  | join channel => exact apart_renderWords channel
  | part channel reason =>
    cases reason with
    | none => exact apart_renderWords channel
    | some reason => exact apart_renderFreeText [channel, reason]
  | numeric number args =>
    rw [renderParameters]
    fun_cases renderNumericArgs args with
    | case1 => exact apart_empty
    | case2 only => exact apart_space _
    | case3 => exact apart_renderFreeText args
  | _ => exact apart_renderFreeText _

/-- Words and a last text are read back as they were, whatever the text. -/
theorem readFreeText_renderFreeText (hne : args ≠ [])
    (hwords : ∀ text ∈ args.dropLast, IsWord text.toList) :
    readFreeText (args.length - 1) (dropSpaces (renderFreeText args)) = args := by
  induction args using renderFreeText.induct with
  | case1 => exact absurd rfl hne
  | case2 last =>
    have hcolon : (":" ++ last).toList.head? ≠ some ' ' := by
      simp
    rw [renderFreeText, freeText_eq, dropSpaces_space hcolon, List.length_singleton, Nat.sub_self,
      readFreeText, trailing_colon]
  | case3 arg rest hrest ih =>
    rw [List.dropLast_cons_of_ne_nil hrest] at hwords
    have harg : IsWord arg.toList := hwords arg List.mem_cons_self
    have hothers := ih hrest fun text ht => hwords text (List.mem_cons_of_mem arg ht)
    have hhead : (arg ++ renderFreeText rest).toList.head? ≠ some ' ' := by
      rw [String.toList_append]
      exact harg.head?_ne
    obtain ⟨n, hn⟩ := Nat.exists_eq_add_one_of_ne_zero (mt List.length_eq_zero_iff.mp hrest)
    rw [hn, Nat.add_sub_cancel] at hothers
    have hwritten : renderFreeText (arg :: rest) = " " ++ (arg ++ renderFreeText rest) := by
      rw [renderFreeText, String.append_assoc]
      exact hrest
    rw [hwritten, dropSpaces_space hhead, List.length_cons, Nat.add_sub_cancel, hn, readFreeText,
      split_append harg (apart_renderFreeText rest), hothers]

/-- A text needs no colon if it is a word without one in front. -/
theorem needsColon_eq_false_iff : needsColon channel = false ↔
    IsWord channel.toList ∧ channel.toList.head? ≠ some ':' := by
  have hspace : channel.toList.contains ' ' = false ↔ ' ' ∉ channel.toList := by
    rw [← Bool.not_eq_true, List.contains_iff_mem]
  rw [needsColon, Bool.or_eq_false_iff, Bool.or_eq_false_iff, List.isEmpty_eq_false_iff, hspace,
    beq_eq_false_iff_ne]
  exact ⟨fun ⟨⟨hempty, hspace⟩, hhead⟩ => ⟨⟨hempty, hspace⟩, hhead⟩,
    fun ⟨hword, hhead⟩ => ⟨⟨hword.ne_nil, hword.no_space⟩, hhead⟩⟩

/-- A channel that looks like a word is read as one, and any other as free text. -/
theorem firstParameter_renderWords (channel : String) :
    firstParameter (dropSpaces (renderWords [channel])) = channel := by
  rw [renderWords]
  cases hcolon : needsColon channel with
  | true =>
    have hhead : (":" ++ channel).toList.head? = some ':' := by
      simp
    have hspace : (":" ++ channel).toList.head? ≠ some ' ' := by
      rw [hhead]
      decide
    rw [if_pos rfl, freeText_eq, dropSpaces_space hspace, firstParameter, if_pos hhead,
      trailing_colon]
  | false =>
    obtain ⟨hword, hhead⟩ := needsColon_eq_false_iff.mp hcolon
    rw [if_neg Bool.false_ne_true, dropSpaces_space hword.head?_ne_space,
      firstParameter_word hword hhead]

/-- Whether the last parameter is always written as free text. A channel that is joined or
left without a reason is not, nor is the only parameter of a numbered reply. -/
def endsInFreeText : Body → Bool
  | join _ => false
  | part _ reason => reason.isSome
  | numeric _ args => decide (2 ≤ args.length)
  | _ => true

variable {body : Body}

theorem renderParameters_of_endsInFreeText (h : body.endsInFreeText = true) :
    body.renderParameters = renderFreeText body.texts ∧ body.texts ≠ [] := by
  cases body with
  | join => cases h
  | part channel reason =>
    cases reason with
    | none => cases h
    | some reason => exact ⟨rfl, List.cons_ne_nil _ _⟩
  | numeric number args =>
    have hlength : 2 ≤ args.length := of_decide_eq_true h
    match args, hlength with
    | _ :: _ :: _, _ => exact ⟨rfl, List.cons_ne_nil _ _⟩
  | _ => exact ⟨rfl, List.cons_ne_nil _ _⟩

end Body

/-! ## Whole lines -/

namespace Request

variable {line ends origin rest : List Char} {text : String}

theorem trimLineEnds_append (h : ∀ c ∈ ends, isLineEnd c = true) :
    trimLineEnds (line ++ ends) = trimLineEnds line := by
  have hends : ∀ c ∈ ends.reverse, isLineEnd c = true := fun c hc => h c (List.mem_reverse.mp hc)
  rw [trimLineEnds, List.reverse_append, List.dropWhile_append_of_pos hends, trimLineEnds]

/-- Nothing is taken off the end of a text of one line. -/
theorem trimLineEnds_of_oneLine (h : OneLine text) : trimLineEnds text.toList = text.toList := by
  refine trimLineEnds_of_getLast? fun c hc => ?_
  obtain ⟨hreturn, hfeed⟩ := h c (List.mem_of_getLast? hc)
  simp [isLineEnd, hreturn, hfeed]

/-- A text of one line closes with no line end. -/
theorem trimmed_of_oneLine {text : String} (h : OneLine text) : trimmed text = text := by
  rw [trimmed, trimLineEnds_of_oneLine h, String.ofList_toList]

/-- What stands apart from a name still does without its line ends. -/
theorem apart_trimmed {rest : String} (h : Words.Apart rest) : Words.Apart (trimmed rest) := by
  have hsuffix : rest.toList.reverse.dropWhile isLineEnd <:+ rest.toList.reverse :=
    List.dropWhile_suffix isLineEnd
  have hprefix : trimLineEnds rest.toList <+: rest.toList := by
    rwa [← List.reverse_suffix, trimLineEnds, List.reverse_reverse]
  obtain ⟨ends, hends⟩ := hprefix
  intro c hc
  rw [trimmed, String.toList_ofList] at hc
  have hhead : rest.toList.head? = some c := by
    rw [← hends, List.head?_append, hc, Option.some_or]
  exact h c hhead

/-- An origin without spaces is skipped together with the space behind it. -/
theorem skipOrigin_origin (horigin : ' ' ∉ origin) (hrest : rest.head? ≠ some ' ') :
    skipOrigin (':' :: origin ++ ' ' :: rest) = rest := by
  have hword : Words.IsWord (':' :: origin) := by
    refine ⟨List.cons_ne_nil _ _, ?_⟩
    rw [List.mem_cons, not_or]
    exact ⟨by decide, horigin⟩
  rw [skipOrigin, Words.dropWhile_space_of_head? hword.head?_ne, Words.splitChars_word hword hrest]
  exact if_pos rfl

end Request

namespace Message

variable {message : Message}

/-- The word of a message comes first of what is read, behind the origin. -/
theorem skipOrigin_line
    (horigin : ∀ origin, message.origin = some origin → ' ' ∉ origin.render.toList) :
    Request.skipOrigin message.line.toList =
      message.body.word.toList ++ message.body.renderParameters.toList := by
  obtain ⟨origin, body⟩ := message
  have hword := body.isWord_word
  have hbody : body.render.toList = body.word.toList ++ body.renderParameters.toList := by
    rw [Body.render_eq, String.toList_append]
  cases origin with
  | none =>
    rw [line, hbody]
    exact Request.skipOrigin_token hword body.head?_word
  | some origin =>
    have hline : (":" ++ origin.render ++ " " ++ body.render).toList =
        ':' :: origin.render.toList ++ ' ' :: body.render.toList := by
      simp
    have hhead : body.render.toList.head? ≠ some ' ' := by
      rw [hbody]
      exact hword.head?_ne
    rw [line, hline, Request.skipOrigin_origin (horigin origin rfl) hhead, hbody]

/-- A message is read as its word, and its parameters stand behind it as they were written. -/
theorem parse?_render_eq (hlines : message.isBroken = false)
    (horigin : ∀ origin, message.origin = some origin → ' ' ∉ origin.render.toList) :
    Request.parse? message.render =
      some ⟨message.body.word, Words.dropSpaces message.body.renderParameters⟩ := by
  have hends : lineEnd.toList.all Request.isLineEnd = true := by decide
  have htrim : Request.trimLineEnds message.render.toList = message.line.toList := by
    rw [render_eq, String.toList_append, Request.trimLineEnds_append (List.all_eq_true.mp hends),
      Request.trimLineEnds_of_oneLine (oneLine_line hlines)]
  have hskip : Request.skipOrigin (Request.trimLineEnds message.render.toList) =
      message.body.word.toList ++ message.body.renderParameters.toList := by
    rw [htrim, skipOrigin_line horigin]
  have hapart : Words.Apart message.body.renderParameters := message.body.apart_renderParameters
  rw [Request.parse?_of_skipOrigin hskip message.body.isWord_word hapart, String.ofList_toList,
    Words.dropSpaces]

/-- A message without line ends and without a space in its origin is read back: its word is
the token of the line, a channel alone is the first parameter of the tail, and parameters
that end in free text are taken off the tail one by one, whatever the last one looks like. -/
theorem messages_read_back (message : Message) (hlines : message.isBroken = false)
    (horigin : ∀ origin, message.origin = some origin → ' ' ∉ origin.render.toList) :
    ∃ tail, Request.parse? message.render = some ⟨message.body.word, tail⟩ ∧
      (∀ channel, message.body = .join channel ∨ message.body = .part channel none →
        Words.firstParameter tail = channel) ∧
      (message.body.endsInFreeText = true →
        (∀ text ∈ message.body.texts.dropLast, Words.IsWord text.toList) →
        Words.readFreeText (message.body.texts.length - 1) tail = message.body.texts) := by
  refine ⟨_, parse?_render_eq hlines horigin, ?_, ?_⟩
  · rintro channel (hbody | hbody)
    · rw [hbody]
      exact Body.firstParameter_renderWords channel
    · rw [hbody]
      exact Body.firstParameter_renderWords channel
  · intro hfree hwords
    obtain ⟨hwritten, hne⟩ := Body.renderParameters_of_endsInFreeText hfree
    rw [hwritten]
    exact Body.readFreeText_renderFreeText hne hwords

/-- A topic that begins with a space and colons. -/
theorem messages_read_back_topic :
    let message : Message := ⟨some (.user "alice" "al" "10.0.0.1"), .topic "#rust" " ::a b "⟩
    ∃ tail, Request.parse? message.render = some ⟨"TOPIC", tail⟩ ∧
      Words.readFreeText 1 tail = ["#rust", " ::a b "] := by
  intro message
  have horigin : ∀ origin, message.origin = some origin → ' ' ∉ origin.render.toList := by
    rintro origin ⟨⟩
    decide +kernel
  have hwords : ∀ text ∈ message.body.texts.dropLast, Words.IsWord text.toList := by
    intro text htext
    rw [List.mem_singleton.mp htext]
    exact ⟨by decide, by decide⟩
  obtain ⟨tail, hparse, -, hread⟩ := messages_read_back message (by decide +kernel) horigin
  exact ⟨tail, hparse, hread rfl hwords⟩

end Message

end RelayChat
