import RelayChat.Proofs.CommandTokens
import RelayChat.Proofs.WordLists

/-!
# The grammar of a command line

Without the line ends it closes with, a line that holds a command is written in one form
(`LineForm`): spaces, an origin with spaces behind it if there is one, the token, spaces,
and the tail. A form is the text of one line and no two forms are the text of the same
(`LineForm.chars_injective`). Reading a line finds its form, and a line is refused if it has
none (`Request.grammar_exact`).

A colon at the start of a line always begins an origin. So a token may begin with a colon
only behind an origin, and an origin with nothing behind it makes no command.
-/

namespace RelayChat

open Words

/-! ## Forms -/

/-- What may stand in front of a command: a colon, a word that may be empty, and at least
one space. -/
@[ext]
structure OriginForm where
  /-- The word behind the colon. -/
  word : List Char
  /-- How many spaces come after it. -/
  gap : Nat
  no_space : ' ' ∉ word
  gap_pos : 0 < gap

namespace OriginForm

/-- The origin without the spaces after it. -/
def mark (origin : OriginForm) : List Char :=
  ':' :: origin.word

theorem ended {rest : List Char} (origin : OriginForm) (h : origin.gap = 0) : rest = [] :=
  absurd h origin.gap_pos.ne'

theorem isWord_mark (origin : OriginForm) : IsWord origin.mark := by
  refine ⟨List.cons_ne_nil _ _, fun hmem => ?_⟩
  rcases List.mem_cons.mp hmem with hcolon | hmem
  · cases hcolon
  · exact origin.no_space hmem

/-- Text that begins with a colon begins with an origin, if there is more than one word. -/
theorem exists_mark {start : List Char} (hcolon : start.head? = some ':')
    (hmore : (splitChars start).2 ≠ []) :
    ∃ origin : OriginForm, start = origin.mark ++ (spaces origin.gap ++ (splitChars start).2) ∧
      (splitChars start).2.head? ≠ some ' ' := by
  have hne : start ≠ [] := by
    rintro rfl
    cases hcolon
  have hhead : start.head? ≠ some ' ' := by
    rw [hcolon]
    decide
  obtain ⟨mark, gap, rest, rfl, hmark, hrest, hended⟩ := exists_word hne hhead
  rw [hmark.splitChars_eq hrest hended] at hmore ⊢
  -- the first word is a colon and the word of the origin
  obtain ⟨word, rfl⟩ : ∃ word, mark = ':' :: word := by
    rw [List.head?_append_of_ne_nil _ hmark.ne_nil] at hcolon
    exact List.head?_eq_some_iff.mp hcolon
  have hspace : ' ' ∉ word := fun hmem => hmark.no_space (List.mem_cons_of_mem _ hmem)
  have hgap : 0 < gap := Nat.pos_of_ne_zero fun hzero => hmore (hended hzero)
  exact ⟨⟨word, gap, hspace, hgap⟩, rfl, hrest⟩

end OriginForm

/-- A line that holds a command, taken apart. -/
@[ext]
structure LineForm where
  /-- How many spaces the line begins with. -/
  indent : Nat
  /-- The origin, if there is one. -/
  origin : Option OriginForm
  /-- The command token. -/
  token : List Char
  /-- How many spaces come after it. -/
  gap : Nat
  /-- What is left for the command to read. -/
  tail : List Char
  isWord_token : IsWord token
  /-- All spaces after the token are in the gap. -/
  head?_tail : tail.head? ≠ some ' '
  /-- Without a space after it the token is all there is. -/
  ended : gap = 0 → tail = []
  /-- A colon at the start of the line belongs to an origin. -/
  no_colon : origin = none → token.head? ≠ some ':'

namespace LineForm

variable {form form' : LineForm}

/-- The line from its token on. -/
def command (form : LineForm) : List Char :=
  form.token ++ (spaces form.gap ++ form.tail)

/-- The line without the spaces it begins with. -/
def start (form : LineForm) : List Char :=
  match form.origin with
  | none => form.command
  | some origin => origin.mark ++ (spaces origin.gap ++ form.command)

/-- The line. -/
def chars (form : LineForm) : List Char :=
  spaces form.indent ++ form.start

/-- The request that the line makes. -/
def request (form : LineForm) : Request :=
  ⟨String.ofList form.token, String.ofList form.tail⟩

theorem head?_command (form : LineForm) : form.command.head? ≠ some ' ' :=
  form.isWord_token.head?_ne

theorem head?_start (form : LineForm) : form.start.head? ≠ some ' ' := by
  rw [start]
  split
  · exact form.head?_command
  · exact OriginForm.isWord_mark _ |>.head?_ne

/-- A line begins with a colon if it has an origin, and only then. -/
theorem head?_start_eq_colon (form : LineForm) :
    form.start.head? = some ':' ↔ form.origin ≠ none := by
  rw [start]
  split
  · rename_i hnone
    have hhead : form.command.head? = form.token.head? :=
      List.head?_append_of_ne_nil _ form.isWord_token.ne_nil
    rw [hhead]
    exact iff_of_false (form.no_colon hnone) (not_not_intro hnone)
  · rename_i hsome
    exact iff_of_true rfl (hsome ▸ Option.some_ne_none _)

theorem eq_of_command_eq (h : form.command = form'.command) :
    form.token = form'.token ∧ form.gap = form'.gap ∧ form.tail = form'.tail :=
  form.isWord_token.append_inj form'.isWord_token form.head?_tail form'.head?_tail form.ended
    form'.ended h

/-- The origin is told from the line too. -/
theorem eq_of_start_eq (h : form.start = form'.start) :
    form.origin = form'.origin ∧ form.command = form'.command := by
  -- either both lines begin with a colon or none does
  have hcolon : form.origin ≠ none ↔ form'.origin ≠ none := by
    rw [← head?_start_eq_colon, ← head?_start_eq_colon, h]
  cases horigin : form.origin with
  | none =>
    have hnone : form'.origin = none := by
      simpa [horigin] using hcolon
    rw [start, start, horigin, hnone] at h
    exact ⟨hnone.symm, h⟩
  | some origin =>
    obtain ⟨origin', horigin'⟩ : ∃ origin', form'.origin = some origin' := by
      simpa [horigin, Option.ne_none_iff_exists'] using hcolon
    rw [start, start, horigin, horigin'] at h
    obtain ⟨hmark, hgap, hcommand⟩ := origin.isWord_mark.append_inj origin'.isWord_mark
      form.head?_command form'.head?_command origin.ended origin'.ended h
    rw [horigin']
    exact ⟨congrArg some (OriginForm.ext (List.cons.inj hmark).2 hgap), hcommand⟩

/-- A line has at most one form. -/
theorem chars_injective : Function.Injective chars := by
  intro form form' h
  obtain ⟨hindent, hstart⟩ := spaces_append_inj h form.head?_start form'.head?_start
  obtain ⟨horigin, hcommand⟩ := eq_of_start_eq hstart
  obtain ⟨htoken, hgap, htail⟩ := eq_of_command_eq hcommand
  exact LineForm.ext hindent horigin htoken hgap htail

end LineForm

namespace Request

variable {line start : List Char} {text : String} {request : Request} {form : LineForm} {n : Nat}

/-! ## What is passed over -/

/-- What is taken off the end of a line are line ends. -/
theorem exists_lineEnds (line : List Char) :
    ∃ ends, line = trimLineEnds line ++ ends ∧ ∀ c ∈ ends, isLineEnd c = true := by
  refine ⟨(line.reverse.takeWhile isLineEnd).reverse, ?_, ?_⟩
  · rw [trimLineEnds, ← List.reverse_append, List.takeWhile_append_dropWhile, List.reverse_reverse]
  · intro c hc
    exact List.mem_takeWhile_imp (List.mem_reverse.mp hc)

/-- All line ends that a line closes with are taken off. -/
theorem isLineEnd_getLast?_trimLineEnds {c : Char} (h : (trimLineEnds line).getLast? = some c) :
    isLineEnd c = false := by
  rw [trimLineEnds, List.getLast?_reverse] at h
  have hstop := List.head?_dropWhile_not isLineEnd line.reverse
  rw [h] at hstop
  simpa using hstop

theorem skipOrigin_spaces (n : Nat) (hstart : start.head? ≠ some ' ') :
    skipOrigin (spaces n ++ start) =
      if start.head? = some ':' then (splitChars start).2 else start := by
  rw [skipOrigin, dropWhile_spaces, dropWhile_space_of_head? hstart]

/-- What is left when the origin is skipped is the line from its token on. -/
theorem skipOrigin_chars (form : LineForm) : skipOrigin form.chars = form.command := by
  rw [LineForm.chars, skipOrigin_spaces form.indent form.head?_start]
  simp only [LineForm.head?_start_eq_colon]
  cases horigin : form.origin with
  | none =>
    rw [if_neg (not_not_intro rfl), LineForm.start, horigin]
  | some origin =>
    rw [if_pos (Option.some_ne_none origin), LineForm.start, horigin]
    exact congrArg Prod.snd
      (origin.isWord_mark.splitChars_eq form.head?_command origin.ended)

/-! ## Forms and reading -/

/-- A line of some form is read as its token and its tail. -/
theorem parse?_of_chars (h : form.chars = trimLineEnds text.toList) :
    parse? text = some form.request := by
  have hskip : skipOrigin (trimLineEnds text.toList) =
      form.token ++ (spaces form.gap ++ form.tail) := by
    rw [← h, skipOrigin_chars, LineForm.command]
  rw [parse?_of_skipOrigin hskip form.isWord_token (head?_spaces_append form.ended),
    dropWhile_spaces, dropWhile_space_of_head? form.head?_tail]
  rfl

/-- Text that begins with a token, behind an origin or without one, makes a form. -/
theorem exists_command (hne : start ≠ []) (hhead : start.head? ≠ some ' ')
    (origin : Option OriginForm) (hcolon : origin = none → start.head? ≠ some ':') :
    ∃ form : LineForm, form.indent = n ∧ form.origin = origin ∧ form.command = start := by
  obtain ⟨token, gap, tail, rfl, htoken, htail, hended⟩ := exists_word hne hhead
  rw [List.head?_append_of_ne_nil _ htoken.ne_nil] at hcolon
  exact ⟨⟨n, origin, token, gap, tail, htoken, htail, hended, hcolon⟩, rfl, rfl, rfl⟩

/-- A line has a form if something is left of it when the origin is skipped. -/
theorem exists_chars (h : skipOrigin line ≠ []) : ∃ form : LineForm, form.chars = line := by
  obtain ⟨indent, hindent⟩ := exists_spaces line
  have hstart := head?_dropWhile_space line
  generalize line.dropWhile (· == ' ') = start at hindent hstart
  subst hindent
  rw [skipOrigin_spaces indent hstart] at h
  by_cases hcolon : start.head? = some ':'
  · rw [if_pos hcolon] at h
    obtain ⟨origin, hmark, hrest⟩ := OriginForm.exists_mark hcolon h
    obtain ⟨form, rfl, horigin, hcommand⟩ :=
      exists_command (n := indent) h hrest (some origin) nofun
    refine ⟨form, ?_⟩
    rw [LineForm.chars, LineForm.start, horigin, hcommand]
    exact congrArg _ hmark.symm
  · rw [if_neg hcolon] at h
    obtain ⟨form, rfl, horigin, rfl⟩ := exists_command (n := indent) h hstart none fun _ => hcolon
    refine ⟨form, ?_⟩
    rw [LineForm.chars, LineForm.start, horigin]

theorem exists_chars_of_parse? (h : parse? text = some request) :
    ∃ form : LineForm, form.chars = trimLineEnds text.toList := by
  refine exists_chars fun hnil => ?_
  rw [parse?, hnil] at h
  cases h

/-- Reading a line finds the request of its form. -/
theorem parse?_eq_some_iff : parse? text = some request ↔
    ∃ form : LineForm, form.chars = trimLineEnds text.toList ∧ form.request = request := by
  constructor
  · intro h
    obtain ⟨form, hform⟩ := exists_chars_of_parse? h
    have hrequest := (parse?_of_chars hform).symm.trans h
    exact ⟨form, hform, Option.some.inj hrequest⟩
  · rintro ⟨form, hform, rfl⟩
    exact parse?_of_chars hform

/-- A colon is an origin by itself, and the word behind it may then begin with another. -/
example : parse? " :  :x  y \r\n" = some ⟨":x", "y "⟩ := by
  decide

/-- A line is refused if it has no form. -/
theorem parse?_eq_none_iff :
    parse? text = none ↔ ∀ form : LineForm, form.chars ≠ trimLineEnds text.toList := by
  constructor
  · intro h form hform
    rw [parse?_of_chars hform] at h
    cases h
  · intro h
    cases hparse : parse? text with
    | none => rfl
    | some request =>
      obtain ⟨form, hform⟩ := exists_chars_of_parse? hparse
      exact absurd hform (h form)

/-! ## The whole reading -/

/-- Take the line ends off a text that it closes with. The request that is read from it is the
one of the form that is left, if there is such a form, and there is no more than one. The
request is for the command that is spelled like its token but for the case of ASCII letters. -/
theorem grammar_exact (text : String) :
    ∃ line ends, text.toList = line ++ ends ∧ (∀ c ∈ ends, c = '\r' ∨ c = '\n') ∧
      (∀ c, line.getLast? = some c → c ≠ '\r' ∧ c ≠ '\n') ∧
      (∀ request, parse? text = some request ↔
        ∃ form : LineForm, form.chars = line ∧ form.request = request) ∧
      (∀ form form' : LineForm, form.chars = line → form'.chars = line → form = form') ∧
      (parse? text = none ↔ ∀ form : LineForm, form.chars ≠ line) ∧
      ∀ request : Request,
        (∀ verb ∈ Verb.all, request.verb = verb ↔
          List.Forall₂ CaseVariant verb.spelling.toList request.token.toList) ∧
        (request.verb = .unknown ↔ ∀ verb ∈ Verb.all,
          ¬List.Forall₂ CaseVariant verb.spelling.toList request.token.toList) := by
  obtain ⟨ends, hline, hends⟩ := exists_lineEnds text.toList
  refine ⟨trimLineEnds text.toList, ends, hline, ?_, ?_, fun _ => parse?_eq_some_iff, ?_,
    parse?_eq_none_iff, fun request => ⟨?_, ?_⟩⟩
  · intro c hc
    simpa [isLineEnd] using hends c hc
  · intro c hc
    simpa [isLineEnd] using isLineEnd_getLast?_trimLineEnds hc
  · intro form form' hform hform'
    exact LineForm.chars_injective (hform.trans hform'.symm)
  · intro verb hverb
    rw [← Verb.sameLetters_iff]
    exact Verb.ofToken_eq_iff (Verb.mem_all.mp hverb)
  · simp only [← Verb.sameLetters_iff]
    exact Verb.ofToken_eq_unknown_iff

end Request

end RelayChat
