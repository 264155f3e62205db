import Mathlib.Data.List.TakeWhile
import RelayChat.Proofs.LineReading

/-!
# The words of a text

Taking a word off a text cuts it in two: spaces, the word, spaces again, and a rest that
begins with something else (`Words.Cut`). There is one such cut of every text, and it is
the one that `splitChars` makes (`splitChars_eq_iff`).

The words of a text are what is left of it when it is cut at every space and the empty
pieces are dropped. They are found one after the other, each in what the one before it left
(`words_eq`).
-/

namespace RelayChat.Words

variable {s word word' rest rest' : List Char} {gap gap' n m : Nat}

/-! ## Spaces in a row -/

/-- So many spaces. -/
def spaces (n : Nat) : List Char :=
  List.replicate n ' '

theorem spaces_zero : spaces 0 = [] :=
  rfl

theorem spaces_succ (n : Nat) : spaces (n + 1) = ' ' :: spaces n :=
  rfl

theorem length_spaces (n : Nat) : (spaces n).length = n :=
  List.length_replicate

/-- Every text begins with some number of spaces. -/
theorem exists_spaces (s : List Char) : ∃ n, s = spaces n ++ s.dropWhile (· == ' ') := by
  have hspaces : s.takeWhile (· == ' ') = spaces (s.takeWhile (· == ' ')).length := by
    refine List.eq_replicate_of_mem fun c hc => ?_
    simpa using List.mem_takeWhile_imp hc
  refine ⟨(s.takeWhile (· == ' ')).length, ?_⟩
  rw [← hspaces, List.takeWhile_append_dropWhile]

theorem head?_dropWhile_space (s : List Char) : (s.dropWhile (· == ' ')).head? ≠ some ' ' := by
  intro hhead
  have hstop := List.head?_dropWhile_not (· == ' ') s
  rw [hhead] at hstop
  cases hstop

theorem dropWhile_spaces (n : Nat) (s : List Char) :
    (spaces n ++ s).dropWhile (· == ' ') = s.dropWhile (· == ' ') := by
  induction n with
  | zero => rfl
  | succ n ih => rw [spaces_succ, List.cons_append, List.dropWhile_cons_of_pos (by decide), ih]

/-- How many spaces a text begins with is told from what comes after them. -/
theorem spaces_append_inj (h : spaces n ++ rest = spaces m ++ rest')
    (hrest : rest.head? ≠ some ' ') (hrest' : rest'.head? ≠ some ' ') : n = m ∧ rest = rest' := by
  have hdrop := congrArg (List.dropWhile (· == ' ')) h
  rw [dropWhile_spaces, dropWhile_spaces, dropWhile_space_of_head? hrest,
    dropWhile_space_of_head? hrest'] at hdrop
  rw [hdrop, List.append_cancel_right_eq] at h
  have hlength := congrArg List.length h
  rw [length_spaces, length_spaces] at hlength
  exact ⟨hlength, hdrop⟩

/-- What stands behind a word begins with a space if there is anything. -/
theorem head?_spaces_append (hended : gap = 0 → rest = []) :
    ∀ c, (spaces gap ++ rest).head? = some c → c = ' ' := by
  intro c hc
  cases gap with
  | zero =>
    rw [hended rfl] at hc
    cases hc
  | succ gap => exact (Option.some.inj hc).symm

/-! ## One word -/

/-- The text is cut into its first word and what comes after that. -/
inductive Cut : List Char → List Char → List Char → Prop where
  /-- There is no word. -/
  | blank (indent : Nat) : Cut (spaces indent) [] []
  /-- There are spaces, a word, spaces, and a rest that begins with something else. Without a
  space behind it the word is all there is. -/
  | word {word rest : List Char} (indent gap : Nat) (hword : IsWord word)
      (hrest : rest.head? ≠ some ' ') (hended : gap = 0 → rest = []) :
      Cut (spaces indent ++ (word ++ (spaces gap ++ rest))) word rest

/-- Spaces in front make no difference. -/
theorem splitChars_spaces (n : Nat) (s : List Char) :
    splitChars (spaces n ++ s) = splitChars s := by
  rw [splitChars, dropWhile_spaces, splitChars]

/-- A word is taken off a text with the spaces behind it. -/
theorem IsWord.splitChars_eq (hword : IsWord word) (hrest : rest.head? ≠ some ' ')
    (hended : gap = 0 → rest = []) : splitChars (word ++ (spaces gap ++ rest)) = (word, rest) := by
  rw [splitChars_append hword (head?_spaces_append hended), dropWhile_spaces,
    dropWhile_space_of_head? hrest]

/-- A word, the number of spaces behind it and the rest are told from the text. -/
theorem IsWord.append_inj (hword : IsWord word) (hword' : IsWord word')
    (hrest : rest.head? ≠ some ' ') (hrest' : rest'.head? ≠ some ' ')
    (hended : gap = 0 → rest = []) (hended' : gap' = 0 → rest' = [])
    (h : word ++ (spaces gap ++ rest) = word' ++ (spaces gap' ++ rest')) :
    word = word' ∧ gap = gap' ∧ rest = rest' := by
  have hcut := congrArg splitChars h
  rw [hword.splitChars_eq hrest hended, hword'.splitChars_eq hrest' hended'] at hcut
  cases hcut
  rw [List.append_cancel_left_eq] at h
  exact ⟨rfl, (spaces_append_inj h hrest hrest).1, rfl⟩

theorem Cut.splitChars_eq (h : Cut s word rest) : splitChars s = (word, rest) := by
  cases h with
  | blank indent =>
    rw [← List.append_nil (spaces indent), splitChars_spaces]
    rfl
  | word indent gap hword hrest hended =>
    rw [splitChars_spaces, hword.splitChars_eq hrest hended]

/-- A text that begins with something else than a space begins with a word. -/
theorem exists_word (hne : s ≠ []) (hhead : s.head? ≠ some ' ') :
    ∃ word gap rest, s = word ++ (spaces gap ++ rest) ∧ IsWord word ∧ rest.head? ≠ some ' ' ∧
      (gap = 0 → rest = []) := by
  have hparts : s.takeWhile (· != ' ') ++ s.dropWhile (· != ' ') = s :=
    List.takeWhile_append_dropWhile
  obtain ⟨gap, hgap⟩ := exists_spaces (s.dropWhile (· != ' '))
  have hrest := head?_dropWhile_space (s.dropWhile (· != ' '))
  generalize (s.dropWhile (· != ' ')).dropWhile (· == ' ') = rest at hgap hrest
  refine ⟨s.takeWhile (· != ' '), gap, rest, ?_, ⟨fun hnil => ?_, fun hmem => ?_⟩, hrest, ?_⟩
  · rw [← hgap, hparts]
  · -- the first character belongs to the word
    cases s with
    | nil => exact hne rfl
    | cons c s =>
      rw [List.takeWhile_eq_nil_iff] at hnil
      exact hhead (congrArg some (by simpa using hnil))
  · cases List.mem_takeWhile_imp hmem
  · -- where the word ends there is a space or nothing
    rintro rfl
    rw [spaces_zero, List.nil_append] at hgap
    cases rest with
    | nil => rfl
    | cons c rest =>
      have hstop := List.head?_dropWhile_not (· != ' ') s
      rw [hgap] at hstop
      exact absurd (congrArg some (by simpa using hstop)) hrest

theorem exists_cut (s : List Char) : ∃ word rest, Cut s word rest := by
  obtain ⟨indent, hindent⟩ := exists_spaces s
  have hstart := head?_dropWhile_space s
  generalize s.dropWhile (· == ' ') = start at hindent hstart
  subst hindent
  by_cases hnil : start = []
  · rw [hnil, List.append_nil]
    exact ⟨[], [], .blank indent⟩
  · obtain ⟨word, gap, rest, rfl, hword, hrest, hended⟩ := exists_word hnil hstart
    exact ⟨word, rest, .word indent gap hword hrest hended⟩

/-- Every text is cut in one way, which is found by taking its first word off. -/
theorem splitChars_eq_iff : splitChars s = (word, rest) ↔ Cut s word rest := by
  refine ⟨fun h => ?_, Cut.splitChars_eq⟩
  obtain ⟨_, _, hcut⟩ := exists_cut s
  cases h.symm.trans hcut.splitChars_eq
  exact hcut

/-! ## All words -/

/-- The pieces of a text between its spaces, without the empty ones. -/
def wordsOf (s : List Char) : List (List Char) :=
  (s.splitOn ' ').filter (!·.isEmpty)

/-- The words of a text, in order. -/
def words (s : String) : List String :=
  (wordsOf s.toList).map String.ofList

theorem wordsOf_spaces (n : Nat) (s : List Char) : wordsOf (spaces n ++ s) = wordsOf s := by
  induction n with
  | zero => rfl
  | succ n ih =>
    have hcut : (' ' :: (spaces n ++ s)).splitOn ' ' = [] :: (spaces n ++ s).splitOn ' ' :=
      List.splitOn_append_cons_self_of_not_mem List.not_mem_nil _
    rw [spaces_succ, List.cons_append, wordsOf, hcut, List.filter_cons_of_neg (by simp)]
    exact ih

theorem wordsOf_word (hword : IsWord word) (hended : gap = 0 → rest = []) :
    wordsOf (word ++ (spaces gap ++ rest)) = word :: wordsOf rest := by
  have hkept : (!word.isEmpty) = true := by
    simpa using hword.ne_nil
  cases gap with
  | zero =>
    rw [hended rfl, spaces_zero, List.append_nil, List.append_nil, wordsOf,
      List.splitOn_eq_singleton hword.no_space, List.filter_cons, if_pos hkept]
    rfl
  | succ gap =>
    have hcut : (word ++ ' ' :: (spaces gap ++ rest)).splitOn ' ' =
        word :: (spaces gap ++ rest).splitOn ' ' :=
      List.splitOn_append_cons_self_of_not_mem hword.no_space _
    rw [spaces_succ, List.cons_append, wordsOf, hcut, List.filter_cons, if_pos hkept]
    exact congrArg (word :: ·) (wordsOf_spaces gap rest)

/-- The first word is taken off, and the others are those of the rest. -/
theorem wordsOf_eq (s : List Char) :
    wordsOf s = if (splitChars s).1 = [] then []
      else (splitChars s).1 :: wordsOf (splitChars s).2 := by
  obtain ⟨word, rest, hcut⟩ := exists_cut s
  rw [hcut.splitChars_eq]
  cases hcut with
  | blank indent =>
    rw [if_pos rfl, ← List.append_nil (spaces indent), wordsOf_spaces]
    rfl
  | word indent gap hword hrest hended =>
    rw [if_neg hword.ne_nil, wordsOf_spaces, wordsOf_word hword hended]

theorem words_eq (s : String) :
    words s = if (split s).1 = "" then [] else (split s).1 :: words (split s).2 := by
  have hempty : (split s).1 = "" ↔ (splitChars s.toList).1 = [] := by
    rw [← String.toList_inj, toList_split_fst, String.toList_empty]
  rw [words, wordsOf_eq, words, toList_split_snd]
  by_cases hnone : (splitChars s.toList).1 = []
  · rw [if_pos hnone, if_pos (hempty.mpr hnone), List.map_nil]
  · rw [if_neg hnone, if_neg (mt hempty.mp hnone), List.map_cons]
    rfl

/-- Two words can be taken off a text that has at least two. -/
theorem two_le_length_words (s : String) :
    2 ≤ (words s).length ↔ (split s).1 ≠ "" ∧ (split (split s).2).1 ≠ "" := by
  rw [words_eq s]
  split
  · rename_i hnone
    simp [hnone]
  · rename_i hsome
    rw [List.length_cons, words_eq (split s).2]
    split
    · rename_i hnone
      simp [hnone]
    · rename_i hmore
      simp [hsome, hmore]

end RelayChat.Words
