import RelayChat.Dispatch

/-!
# How a line is read back

A command line is written as a word, a space and a tail. Reading gives the word and
the tail back unchanged if the word has no spaces, the tail begins with something
else than a space and the line does not close with a line end. So free text after
a colon arrives letter for letter, spaces and colons included.
-/

namespace RelayChat

namespace Words

variable {word rest : List Char} {name text : String}

/-- Characters that stand together as one word. -/
structure IsWord (word : List Char) : Prop where
  /-- There is at least one. -/
  ne_nil : word ≠ []
  /-- None of them is a space. -/
  no_space : ' ' ∉ word

theorem dropWhile_space_of_head? (h : rest.head? ≠ some ' ') :
    rest.dropWhile (· == ' ') = rest := by
  cases rest with
  | nil => rfl
  | cons c rest =>
    have hc : ¬(c == ' ') = true := by simpa using h
    exact List.dropWhile_cons_of_neg hc

theorem IsWord.head?_ne (hword : IsWord word) : (word ++ rest).head? ≠ some ' ' := by
  cases word with
  | nil => exact absurd rfl hword.ne_nil
  | cons c word =>
    rintro h
    have hc : c = ' ' := Option.some.inj h
    exact hword.no_space (hc ▸ List.mem_cons_self)

theorem IsWord.head?_ne_space (hword : IsWord word) : word.head? ≠ some ' ' := by
  rw [← List.append_nil word]
  exact hword.head?_ne

/-- A word is not taken for a missing parameter. -/
theorem IsWord.not_isEmpty (hname : IsWord name.toList) : ¬name.isEmpty = true := by
  intro he
  apply hname.ne_nil
  rw [String.isEmpty_iff.mp he, String.toList_empty]

/-- A word is taken off a text that goes on with a space, or not at all. -/
theorem splitChars_append (hword : IsWord word) (hrest : ∀ c, rest.head? = some c → c = ' ') :
    splitChars (word ++ rest) = (word, rest.dropWhile (· == ' ')) := by
  have hpassed : ∀ c ∈ word, (c != ' ') = true := by
    intro c hc
    have hne : c ≠ ' ' := fun he => hword.no_space (he ▸ hc)
    simpa using hne
  have hstops : rest.takeWhile (· != ' ') = [] ∧ rest.dropWhile (· != ' ') = rest := by
    cases rest with
    | nil => exact ⟨rfl, rfl⟩
    | cons c rest =>
      have hc : ¬(c != ' ') = true := by simpa using hrest c rfl
      exact ⟨List.takeWhile_cons_of_neg hc, List.dropWhile_cons_of_neg hc⟩
  unfold splitChars
  rw [dropWhile_space_of_head? hword.head?_ne]
  dsimp only
  rw [List.takeWhile_append_of_pos hpassed, List.dropWhile_append_of_pos hpassed, hstops.1,
    hstops.2, List.append_nil]

/-- A word, a space and what follows are taken apart at the space. -/
theorem splitChars_word (hword : IsWord word) (hrest : rest.head? ≠ some ' ') :
    splitChars (word ++ ' ' :: rest) = (word, rest) := by
  have hspace : ∀ c, (' ' :: rest).head? = some c → c = ' ' := fun c hc => (Option.some.inj hc).symm
  rw [splitChars_append hword hspace, List.dropWhile_cons_of_pos (by decide),
    dropWhile_space_of_head? hrest]

/-- A target and a free text behind it. -/
theorem split_freeText (hname : IsWord name.toList) :
    split (name ++ " :" ++ text) = (name, ":" ++ text) := by
  have hchars : (name ++ " :" ++ text).toList = name.toList ++ ' ' :: ':' :: text.toList := by
    simp
  have hrest : (':' :: text.toList).head? ≠ some ' ' := by
    simp
  rw [split, hchars, splitChars_word hname hrest, String.ofList_toList]
  rw [Prod.mk.injEq]
  exact ⟨rfl, String.toList_inj.mp (by simp)⟩

/-- The colon that introduces free text is all that is taken off it. -/
theorem trailing_colon (text : String) : trailing (":" ++ text) = text := by
  have hchars : (":" ++ text).toList = ':' :: text.toList := by
    simp
  rw [trailing, hchars, trailingChars, String.ofList_toList]

end Words

namespace Request

/-- The line gives the command with this tail. -/
def Gives (text : String) (verb : Verb) (tail : String) : Prop :=
  ∃ request, parse? text = some request ∧ request.verb = verb ∧ request.tail = tail

/-- A line gives the command that its token names. -/
theorem gives_of_parse? {text token tail : String} {verb : Verb}
    (hparse : parse? text = some ⟨token, tail⟩) (htoken : Verb.ofToken token = verb) :
    Gives text verb tail :=
  ⟨_, hparse, htoken, rfl⟩

variable {line rest token tail : List Char} {name text : String}

theorem trimLineEnds_of_getLast? (h : ∀ c, line.getLast? = some c → isLineEnd c = false) :
    trimLineEnds line = line := by
  have hkept : line.reverse.dropWhile isLineEnd = line.reverse := by
    cases hrev : line.reverse with
    | nil => rfl
    | cons c rest =>
      have hlast : line.getLast? = some c := by
        rw [List.getLast?_eq_head?_reverse, hrev, List.head?_cons]
      exact List.dropWhile_cons_of_neg (by simp [h c hlast])
  rw [trimLineEnds, hkept, List.reverse_reverse]

/-- Nothing is skipped of a line that begins with its token. -/
theorem skipOrigin_token (htoken : Words.IsWord token) (hcolon : token.head? ≠ some ':') :
    skipOrigin (token ++ tail) = token ++ tail := by
  have hhead : (token ++ tail).head? ≠ some ':' := by
    cases token with
    | nil => exact absurd rfl htoken.ne_nil
    | cons c token => exact hcolon
  rw [skipOrigin, Words.dropWhile_space_of_head? htoken.head?_ne]
  exact if_neg hhead

/-- A line is read as its token and what follows without leading spaces. -/
theorem parse?_of_skipOrigin (hskip : skipOrigin (trimLineEnds text.toList) = token ++ tail)
    (htoken : Words.IsWord token) (htail : ∀ c, tail.head? = some c → c = ' ') :
    parse? text = some ⟨String.ofList token, String.ofList (tail.dropWhile (· == ' '))⟩ := by
  have hne : ¬token.isEmpty = true := by
    rw [List.isEmpty_iff]
    exact htoken.ne_nil
  unfold parse?
  rw [hskip, Words.splitChars_append htoken htail]
  exact if_neg hne

/-- A line of a token and a tail is read as these. -/
theorem parse?_command (htoken : Words.IsWord token) (hcolon : token.head? ≠ some ':')
    (htail : tail.head? ≠ some ' ')
    (hend : ∀ c, (token ++ ' ' :: tail).getLast? = some c → isLineEnd c = false) :
    parse? (String.ofList (token ++ ' ' :: tail)) =
      some ⟨String.ofList token, String.ofList tail⟩ := by
  have hskip : skipOrigin (trimLineEnds (String.ofList (token ++ ' ' :: tail)).toList) =
      token ++ ' ' :: tail := by
    rw [String.toList_ofList, trimLineEnds_of_getLast? hend, skipOrigin_token htoken hcolon]
  have hspace : ∀ c, (' ' :: tail).head? = some c → c = ' ' := fun c hc => (Option.some.inj hc).symm
  rw [parse?_of_skipOrigin hskip htoken hspace, List.dropWhile_cons_of_pos (by decide),
    Words.dropWhile_space_of_head? htail]

/-- Line ends are taken off what stands behind a text that does not close with one. -/
theorem trimLineEnds_append_kept (h : ∀ c, line.getLast? = some c → isLineEnd c = false) :
    trimLineEnds (line ++ rest) = line ++ trimLineEnds rest := by
  have hline : (line.reverse.dropWhile isLineEnd).reverse = line := trimLineEnds_of_getLast? h
  rw [trimLineEnds, trimLineEnds, List.reverse_append, List.dropWhile_append]
  split
  · rename_i hends
    have hgone : rest.reverse.dropWhile isLineEnd = [] := List.isEmpty_iff.mp hends
    rw [hline, hgone, List.reverse_nil, List.append_nil]
  · rw [List.reverse_append, List.reverse_reverse]

/-- A text without the line ends it closes with. -/
def trimmed (text : String) : String :=
  String.ofList (trimLineEnds text.toList)

theorem trimmed_of_getLast?
    (h : ∀ c, text.toList.getLast? = some c → isLineEnd c = false) : trimmed text = text := by
  rw [trimmed, trimLineEnds_of_getLast? h, String.ofList_toList]

theorem trimmed_empty : trimmed "" = "" :=
  trimmed_of_getLast? fun _ hc => nomatch hc

/-- A line of a command, a word and more is read with the word first, and with the rest as it
stands but for the line ends it closes with. -/
theorem parse?_parameter {command : String} (hcommand : Words.IsWord command.toList)
    (hcolon : command.toList.head? ≠ some ':') (hname : Words.IsWord name.toList)
    (hends : ∀ c ∈ name.toList, isLineEnd c = false) (rest : String) :
    parse? (command ++ " " ++ name ++ rest) = some ⟨command, name ++ trimmed rest⟩ := by
  have hline : (command ++ " " ++ name ++ rest).toList =
      command.toList ++ ' ' :: name.toList ++ rest.toList := by
    simp
  -- the last character before the rest belongs to the word, which is not empty
  have hkept : ∀ c, (command.toList ++ ' ' :: name.toList).getLast? = some c →
      isLineEnd c = false := by
    intro c hc
    obtain ⟨last, hlast⟩ := Option.ne_none_iff_exists'.mp
      (mt List.getLast?_eq_none_iff.mp hname.ne_nil)
    rw [List.getLast?_append, List.getLast?_cons, Option.some_or, hlast, Option.getD_some] at hc
    cases hc
    exact hends c (List.mem_of_getLast? hlast)
  have hskip : skipOrigin (trimLineEnds (command ++ " " ++ name ++ rest).toList) =
      command.toList ++ ' ' :: (name ++ trimmed rest).toList := by
    rw [hline, trimLineEnds_append_kept hkept, List.append_assoc, skipOrigin_token hcommand hcolon,
      String.toList_append, trimmed, String.toList_ofList, List.cons_append]
  have hspace : ∀ c, (' ' :: (name ++ trimmed rest).toList).head? = some c → c = ' ' :=
    fun c hc => (Option.some.inj hc).symm
  have hhead : (name ++ trimmed rest).toList.head? ≠ some ' ' := by
    rw [String.toList_append]
    exact hname.head?_ne
  rw [parse?_of_skipOrigin hskip hcommand hspace, List.dropWhile_cons_of_pos (by decide),
    Words.dropWhile_space_of_head? hhead, String.ofList_toList, String.ofList_toList]

/-- A text for a user or a channel, as a client writes it. -/
def privmsgLine (target text : String) : String :=
  "PRIVMSG " ++ target ++ " :" ++ text

/-- A text for a user or a channel is read with its target first. -/
theorem parse?_privmsgLine (hname : Words.IsWord name.toList)
    (htext : ∀ c ∈ text.toList, isLineEnd c = false) :
    parse? (privmsgLine name text) = some ⟨"PRIVMSG", name ++ " :" ++ text⟩ := by
  have hline : privmsgLine name text =
      String.ofList ("PRIVMSG".toList ++ ' ' :: (name ++ " :" ++ text).toList) :=
    String.toList_inj.mp (by simp [privmsgLine])
  have htoken : Words.IsWord "PRIVMSG".toList := ⟨by decide, by decide⟩
  have htail : (name ++ " :" ++ text).toList.head? ≠ some ' ' := by
    rw [String.toList_append, String.toList_append, List.append_assoc]
    exact hname.head?_ne
  rw [hline, parse?_command htoken (by decide) htail, String.ofList_toList, String.ofList_toList]
  intro c hc
  -- the last character belongs to the text, or is the colon before it
  have hsplit : "PRIVMSG".toList ++ ' ' :: (name ++ " :" ++ text).toList =
      ("PRIVMSG".toList ++ ' ' :: (name.toList ++ [' '])) ++ ':' :: text.toList := by
    simp
  have hlast : (':' :: text.toList).getLast? = some c := by
    rw [hsplit, List.getLast?_append, List.getLast?_cons, Option.some_or] at hc
    rwa [List.getLast?_cons]
  rcases List.mem_cons.mp (List.mem_of_getLast? hlast) with rfl | hmem
  · rfl
  · exact htext c hmem

end Request

end RelayChat
