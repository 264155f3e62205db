import RelayChat.Proofs.LineReading

/-!
# Texts of one line

A text is of one line if it holds neither of the two characters that end a line. What is
read off such a line is of one line as well, since words, free text and parameters are
made of its characters. A message all of whose texts are of one line is written as one
line with its line end behind it (`Message.render_of_isBroken_eq_false`): the separators and
the command words hold no line end, nor does the code of a numbered reply.

Dates are numbers, names of days and months, and separators, whatever the point in time
(`CivilTime.oneLine_render`).
-/

namespace RelayChat

/-- A text without the characters that end a line. -/
def OneLine (s : String) : Prop :=
  ∀ c ∈ s.toList, c ≠ '\r' ∧ c ≠ '\n'

instance (s : String) : Decidable (OneLine s) :=
  decidable_of_iff (s.toList.all (fun c => c != '\r' && c != '\n') = true) (by simp [OneLine])

/-- What follows the first word of a text is part of the text. -/
theorem Words.splitChars_snd_subset (line : List Char) : (splitChars line).2 ⊆ line := by
  intro c hc
  have hrest := List.dropWhile_subset _ (List.dropWhile_subset _ hc)
  exact List.dropWhile_subset _ hrest

/-! ## Texts that are put together -/

namespace OneLine

variable {s t tail text : String} {request : Request}

@[simp] theorem append_iff : OneLine (s ++ t) ↔ OneLine s ∧ OneLine t := by
  simp only [OneLine, String.toList_append, List.forall_mem_append]

theorem append (hs : OneLine s) (ht : OneLine t) : OneLine (s ++ t) :=
  append_iff.mpr ⟨hs, ht⟩

/-- Less of a line is no more than a line. -/
theorem of_subset (h : OneLine s) (hsub : t.toList ⊆ s.toList) : OneLine t :=
  fun c hc => h c (hsub hc)

theorem intercalate {texts : List String} (hs : OneLine s) (h : ∀ t ∈ texts, OneLine t) :
    OneLine (s.intercalate texts) := by
  induction texts with
  | nil =>
    rw [String.intercalate_nil]
    decide
  | cons first rest ih =>
    have hfirst : OneLine first := h first List.mem_cons_self
    have hrest : OneLine (s.intercalate rest) := ih fun t ht => h t (List.mem_cons_of_mem first ht)
    cases rest with
    | nil => rwa [String.intercalate_singleton]
    | cons second rest =>
      rw [String.intercalate_cons_cons]
      exact (hfirst.append hs).append hrest

/-- A text that may be missing. -/
theorem getD {text? : Option String} (h : ∀ text, text? = some text → OneLine text)
    (hs : OneLine s) : OneLine (text?.getD s) := by
  cases text? with
  | none => exact hs
  | some text => exact h text rfl

/-! ## Texts that are read off a line -/

theorem split_fst (h : OneLine tail) : OneLine (Words.split tail).1 := by
  refine h.of_subset ?_
  rw [Words.toList_split_fst]
  exact List.Subset.trans (List.takeWhile_subset _) (List.dropWhile_subset _)

theorem split_snd (h : OneLine tail) : OneLine (Words.split tail).2 := by
  refine h.of_subset ?_
  rw [Words.toList_split_snd]
  exact Words.splitChars_snd_subset _

theorem trailing (h : OneLine tail) : OneLine (Words.trailing tail) := by
  refine h.of_subset ?_
  rw [Words.toList_trailing]
  unfold Words.trailingChars
  split
  · rename_i he
    rw [he]
    exact List.subset_cons_self _ _
  · exact List.Subset.refl _

theorem firstParameter (h : OneLine tail) : OneLine (Words.firstParameter tail) := by
  unfold Words.firstParameter
  split
  · exact h.trailing
  · exact h.split_fst

/-- The tail of a command is read off its line. -/
theorem of_parse? (h : OneLine text) (hparse : Request.parse? text = some request) :
    OneLine request.tail := by
  have htrim : Request.trimLineEnds text.toList ⊆ text.toList := by
    intro c hc
    have hrev := List.dropWhile_subset _ (List.mem_reverse.mp hc)
    exact List.mem_reverse.mp hrev
  have hskip : ∀ line, Request.skipOrigin line ⊆ line := by
    intro line
    unfold Request.skipOrigin
    dsimp only
    split
    · exact List.Subset.trans (Words.splitChars_snd_subset _) (List.dropWhile_subset _)
    · exact List.dropWhile_subset _
  unfold Request.parse? at hparse
  dsimp only at hparse
  split at hparse
  · cases hparse
  · cases hparse
    refine h.of_subset ?_
    rw [String.toList_ofList]
    exact List.Subset.trans (Words.splitChars_snd_subset _) (List.Subset.trans (hskip _) htrim)

end OneLine

/-! ## Dates -/

namespace CivilTime

/-- A number is made of digits. -/
theorem oneLine_toString (n : Nat) : OneLine (toString n) := by
  intro c hc
  have hdigits : c ∈ Nat.toDigits 10 n := by
    rwa [← Nat.toList_repr]
  have hdigit : c.isDigit = true := Nat.isDigit_of_mem_toDigits (by decide) (by decide) hdigits
  constructor
  · rintro rfl
    revert hdigit
    decide
  · rintro rfl
    revert hdigit
    decide

theorem oneLine_padded (width n : Nat) : OneLine (padded width n) := by
  intro c hc
  rw [padded, String.toList_ofList] at hc
  rcases List.mem_append.mp hc with hc | hc
  · rw [(List.mem_replicate.mp hc).2]
    decide
  · exact oneLine_toString n c hc

theorem oneLine_yearText (year : Int) : OneLine (yearText year) := by
  unfold yearText
  split
  · exact OneLine.append (by decide) (oneLine_padded _ _)
  · split
    · exact OneLine.append (by decide) (oneLine_toString _)
    · exact oneLine_padded _ _

/-- An entry of a list of names, or nothing. -/
theorem oneLine_entry (names : List String) (h : ∀ name ∈ names, OneLine name) (i : Nat) :
    OneLine ((names[i]?).getD "") :=
  OneLine.getD (fun name hi => h name (List.mem_of_getElem? hi)) (by decide)

theorem oneLine_render (seconds : Int) : OneLine (render seconds) := by
  have hweekday := oneLine_entry weekdayNames (by decide) (ofSeconds seconds).weekday
  have hmonth := oneLine_entry monthNames (by decide) ((ofSeconds seconds).month - 1)
  unfold render
  dsimp only
  simp +decide only [OneLine.append_iff, hweekday, hmonth, oneLine_padded, oneLine_yearText,
    and_self]

end CivilTime

/-! ## Messages -/

/-- The texts in an origin. -/
def Origin.texts : Origin → List String
  | server name => [name]
  | user nickname username hostname => [nickname, username, hostname]

/-- The texts in a body. -/
def Body.texts : Body → List String
  | nick new => [new]
  | join channel => [channel]
  | part channel reason => channel :: reason.toList
  | privmsg target text => [target, text]
  | topic channel text => [channel, text]
  | quit reason => [reason]
  | pong server token => [server, token]
  | cap target subcommand capabilities => [target, subcommand, capabilities]
  | error text => [text]
  | numeric _ args => args

/-- The texts in a message. -/
def Message.texts (message : Message) : List String :=
  message.origin.elim [] Origin.texts ++ message.body.texts

/-- Whether one of the texts in a message holds a line end. -/
def Message.isBroken (message : Message) : Bool :=
  message.texts.any fun text => !decide (OneLine text)

/-- The code of a numbered reply is made of digits. -/
theorem Numeric.oneLine_text (number : Numeric) : OneLine number.text := by
  cases number <;> decide

theorem Numeric.isWord_text (number : Numeric) : Words.IsWord number.text.toList := by
  cases number <;> exact ⟨by decide, by decide⟩

theorem Origin.oneLine_render {origin : Origin} (h : ∀ text ∈ origin.texts, OneLine text) :
    OneLine origin.render := by
  cases origin with
  | server name => exact h name List.mem_cons_self
  | user nickname username hostname =>
    simp only [texts, List.forall_mem_cons] at h
    obtain ⟨hnickname, husername, hhostname, -⟩ := h
    simp +decide only [render, OneLine.append_iff, hnickname, husername, hhostname, and_self]

namespace Body

/-- The name of the command, or the code of a numbered reply. -/
def word : Body → String
  | nick _ => "NICK"
  | join _ => "JOIN"
  | part .. => "PART"
  | privmsg .. => "PRIVMSG"
  | topic .. => "TOPIC"
  | quit _ => "QUIT"
  | pong .. => "PONG"
  | cap .. => "CAP"
  | error _ => "ERROR"
  | numeric number _ => number.text

/-- What is written behind the word. -/
def renderParameters : Body → String
  | join channel => renderWords [channel]
  | part channel none => renderWords [channel]
  | numeric _ args => renderNumericArgs args
  | body => renderFreeText body.texts

variable {args : List String} {body : Body}

theorem render_eq (body : Body) : body.render = body.word ++ body.renderParameters := by
  cases body with
  | part _ reason => cases reason <;> rfl
  | _ => rfl

theorem isWord_word (body : Body) : Words.IsWord body.word.toList := by
  cases body with
  | numeric number => exact number.isWord_text
  | _ =>
    dsimp only [word]
    exact ⟨by decide, by decide⟩

theorem head?_word (body : Body) : body.word.toList.head? ≠ some ':' := by
  cases body with
  | numeric number =>
    dsimp only [word]
    cases number <;> decide
  | _ =>
    dsimp only [word]
    decide

/-- No body is written as nothing. -/
theorem render_ne_empty (body : Body) : body.render ≠ "" := by
  intro h
  rw [render_eq] at h
  have hword : body.word = "" := (String.append_eq_empty_iff.mp h).1
  exact body.isWord_word.ne_nil (by rw [hword, String.toList_empty])

theorem oneLine_renderFreeText (h : ∀ text ∈ args, OneLine text) :
    OneLine (renderFreeText args) := by
  induction args using renderFreeText.induct with
  | case1 => decide
  | case2 last => exact OneLine.append (by decide) (h last List.mem_cons_self)
  | case3 arg rest hne ih =>
    have hrest := ih fun text ht => h text (List.mem_cons_of_mem arg ht)
    rw [renderFreeText]
    · exact (OneLine.append (by decide) (h arg List.mem_cons_self)).append hrest
    · exact hne

theorem oneLine_renderWords (h : ∀ text ∈ args, OneLine text) : OneLine (renderWords args) := by
  induction args using renderWords.induct with
  | case1 => decide
  | case2 last hcolon =>
    rw [renderWords, if_pos hcolon]
    exact OneLine.append (by decide) (h last List.mem_cons_self)
  | case3 last hcolon =>
    rw [renderWords, if_neg hcolon]
    exact OneLine.append (by decide) (h last List.mem_cons_self)
  | case4 arg rest hne ih =>
    have hrest := ih fun text ht => h text (List.mem_cons_of_mem arg ht)
    rw [renderWords]
    · exact (OneLine.append (by decide) (h arg List.mem_cons_self)).append hrest
    · exact hne

theorem oneLine_renderNumericArgs (h : ∀ text ∈ args, OneLine text) :
    OneLine (renderNumericArgs args) := by
  unfold renderNumericArgs
  split
  · decide
  · exact OneLine.append (by decide) (h _ List.mem_cons_self)
  · exact oneLine_renderFreeText h

/-- A body is written as one line if all its texts are of one line. -/
theorem oneLine_render (h : ∀ text ∈ body.texts, OneLine text) : OneLine body.render := by
  cases body with
  | join => exact OneLine.append (by decide) (oneLine_renderWords h)
  | part channel reason =>
    cases reason with
    | none => exact OneLine.append (by decide) (oneLine_renderWords h)
    | some reason => exact OneLine.append (by decide) (oneLine_renderFreeText h)
  | numeric number => exact number.oneLine_text.append (oneLine_renderNumericArgs h)
  | _ => exact OneLine.append (by decide) (oneLine_renderFreeText h)

end Body

namespace Message

variable {message : Message} {origin : Origin} {body : Body}

theorem isBroken_eq_false : message.isBroken = false ↔ ∀ text ∈ message.texts, OneLine text := by
  simp [isBroken]

theorem isBroken_ofBody : (ofBody body).isBroken = false ↔ ∀ text ∈ body.texts, OneLine text := by
  rw [isBroken_eq_false]
  rfl

theorem isBroken_withOrigin : ((ofBody body).withOrigin origin).isBroken = false ↔
    (∀ text ∈ origin.texts, OneLine text) ∧ ∀ text ∈ body.texts, OneLine text := by
  rw [isBroken_eq_false]
  exact List.forall_mem_append

/-- A message as it is written, without its line end. -/
def line (message : Message) : String :=
  match message.origin with
  | some origin => ":" ++ origin.render ++ " " ++ message.body.render
  | none => message.body.render

theorem render_eq (message : Message) : message.render = message.line ++ lineEnd := by
  obtain ⟨origin, body⟩ := message
  cases origin with
  | none => rfl
  | some origin => rfl

theorem line_ne_empty (message : Message) : message.line ≠ "" := by
  obtain ⟨origin, body⟩ := message
  cases origin with
  | none => exact body.render_ne_empty
  | some origin => exact fun h => body.render_ne_empty (String.append_eq_empty_iff.mp h).2

/-- What is written of a message without line ends in its texts is one line. -/
theorem oneLine_line (h : message.isBroken = false) : OneLine message.line := by
  obtain ⟨origin, body⟩ := message
  obtain ⟨horigin, hbody⟩ := List.forall_mem_append.mp (isBroken_eq_false.mp h)
  have hline : OneLine body.render := Body.oneLine_render hbody
  cases origin with
  | none => exact hline
  | some origin =>
    have hfrom : OneLine origin.render := Origin.oneLine_render horigin
    simp +decide only [line, OneLine.append_iff, hfrom, hline, and_self]

/-- Such a message goes out as one line and its line end. -/
theorem render_of_isBroken_eq_false (h : message.isBroken = false) :
    ∃ line, message.render = line ++ "\r\n" ∧ OneLine line :=
  ⟨message.line, message.render_eq, oneLine_line h⟩

end Message

end RelayChat
