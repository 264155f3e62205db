import RelayChat.Proofs.WordLists

/-!
# Words taken off one after the other

A word begins where no space stands and nothing or a space stands before (`beginsWord`). When
words are taken off a text one after the other, each time from what was left before, these
are the words of the text in their order, and empty ones when there are no more. What is left
is always the text from one of its words on, with all the spaces that it has there
(`repeated_splits`).
-/

namespace RelayChat.Words

variable {s word rest : List Char} {c : Char} {gap i k : Nat}

/-! ## Where words begin -/

/-- At this place a word begins. -/
def beginsWord (s : List Char) (i : Nat) : Bool :=
  s[i]?.any (· != ' ') && (i == 0 || s[i - 1]? == some ' ')

/-- The places where words begin, in order. -/
def wordStarts (s : List Char) : List Nat :=
  (List.range s.length).filter (beginsWord s)

example : wordStarts "  ann  :is in ".toList = [2, 7, 11] := by decide

theorem wordStarts_nil : wordStarts [] = [] :=
  rfl

theorem wordStarts_cons (c : Char) (s : List Char) :
    wordStarts (c :: s) = (if c = ' ' then [] else [0]) ++
      ((List.range s.length).filter fun i => beginsWord (c :: s) (i + 1)).map (· + 1) := by
  rw [wordStarts, List.length_cons, List.range_succ_eq_map, List.filter_cons, List.filter_map]
  by_cases hc : c = ' '
  · have hfirst : beginsWord (c :: s) 0 = false := by simp [beginsWord, hc]
    rw [hfirst, if_pos hc]
    rfl
  · have hfirst : beginsWord (c :: s) 0 = true := by simp [beginsWord, hc]
    rw [hfirst, if_neg hc]
    rfl

/-- A space in front moves the words by one place. -/
theorem wordStarts_space (s : List Char) : wordStarts (' ' :: s) = (wordStarts s).map (· + 1) := by
  have hsame : ∀ i, beginsWord (' ' :: s) (i + 1) = beginsWord s i := by
    intro i
    cases i with
    | zero => simp [beginsWord]
    | succ i => simp [beginsWord]
  rw [wordStarts_cons, if_pos rfl, List.nil_append, wordStarts]
  simp only [hsame]

theorem wordStarts_spaces (n : Nat) (s : List Char) :
    wordStarts (spaces n ++ s) = (wordStarts s).map (n + ·) := by
  induction n with
  | zero => simp [spaces_zero]
  | succ n ih =>
    rw [spaces_succ, List.cons_append, wordStarts_space, ih, List.map_map]
    refine List.map_congr_left fun i _ => ?_
    change n + i + 1 = n + 1 + i
    omega

/-- Another character begins a word, to which it joins the word that it stands before. -/
theorem wordStarts_letter (hc : c ≠ ' ') :
    wordStarts (c :: s) = 0 :: ((wordStarts s).filter (· != 0)).map (· + 1) := by
  have hinside : ∀ i, beginsWord (c :: s) (i + 1) = (i != 0 && beginsWord s i) := by
    intro i
    cases i with
    | zero => simp [beginsWord, hc]
    | succ i => simp [beginsWord]
  rw [wordStarts_cons, if_neg hc, List.singleton_append, wordStarts, List.filter_filter]
  simp only [hinside]

/-- No word begins at the front of what is empty or begins with a space. -/
theorem filter_wordStarts (hs : ∀ c, s.head? = some c → c = ' ') :
    (wordStarts s).filter (· != 0) = wordStarts s := by
  cases s with
  | nil => rfl
  | cons c s =>
    obtain rfl : c = ' ' := hs c rfl
    rw [wordStarts_space, List.filter_eq_self]
    intro i hi
    obtain ⟨j, -, rfl⟩ := List.mem_map.mp hi
    rfl

/-- A word begins at its own front. The others begin as they do behind it. -/
theorem IsWord.wordStarts_append (hword : IsWord word)
    (hrest : ∀ c, rest.head? = some c → c = ' ') :
    wordStarts (word ++ rest) = 0 :: (wordStarts rest).map (word.length + ·) := by
  obtain ⟨hne, hspace⟩ := hword
  induction word with
  | nil => exact absurd rfl hne
  | cons c word ih =>
    rw [List.mem_cons, not_or] at hspace
    obtain ⟨hc, hspace⟩ := hspace
    rw [List.cons_append, wordStarts_letter (Ne.symm hc)]
    by_cases hword : word = []
    · rw [hword, List.nil_append, filter_wordStarts hrest]
      refine congrArg (0 :: ·) (List.map_congr_left fun i _ => Nat.add_comm i 1)
    · have hmoved : ((wordStarts rest).map (word.length + ·)).filter (· != 0) =
          (wordStarts rest).map (word.length + ·) := by
        rw [List.filter_eq_self]
        intro i hi
        obtain ⟨j, -, rfl⟩ := List.mem_map.mp hi
        have hpos : 0 < word.length := List.length_pos_iff.mpr hword
        simp only [bne_iff_ne]
        omega
      rw [ih hword hspace, List.filter_cons_of_neg (by decide), hmoved, List.map_map]
      refine congrArg (0 :: ·) (List.map_congr_left fun i _ => ?_)
      change word.length + i + 1 = word.length + 1 + i
      omega

/-- Where the words of a text begin is told from its first word and from what is left. -/
theorem Cut.wordStarts_eq (h : Cut s word rest) :
    (word = [] ∧ rest = [] ∧ wordStarts s = []) ∨
      (IsWord word ∧ ∃ start offset, s.drop offset = rest ∧
        (s.drop start).takeWhile (· != ' ') = word ∧
        wordStarts s = start :: (wordStarts rest).map (offset + ·)) := by
  cases h with
  | blank indent =>
    refine Or.inl ⟨rfl, rfl, ?_⟩
    rw [← List.append_nil (spaces indent), wordStarts_spaces, wordStarts_nil, List.map_nil]
  | word indent gap hword hrest hended =>
    have hbehind := head?_spaces_append hended
    refine Or.inr ⟨hword, indent, indent + (word.length + gap), ?_, ?_, ?_⟩
    · rw [← List.drop_drop, List.drop_left' (length_spaces indent), ← List.drop_drop,
        List.drop_left, List.drop_left' (length_spaces gap)]
    · rw [List.drop_left' (length_spaces indent)]
      have hcut := hword.splitChars_eq hrest hended
      rw [splitChars, dropWhile_space_of_head? hword.head?_ne] at hcut
      exact congrArg Prod.fst hcut
    · rw [wordStarts_spaces, hword.wordStarts_append hbehind, wordStarts_spaces, List.map_cons,
        List.map_map, List.map_map, Nat.add_zero]
      refine congrArg (indent :: ·) (List.map_congr_left fun i _ => ?_)
      change indent + (word.length + (gap + i)) = indent + (word.length + gap) + i
      omega

/-! ## What is left of a text -/

/-- What is left of a text when so many words have been taken off it. -/
def leftChars (s : List Char) : Nat → List Char
  | 0 => s
  | k + 1 => (splitChars (leftChars s k)).2

/-- The word may also be taken off first. -/
theorem leftChars_succ (s : List Char) (k : Nat) :
    leftChars s (k + 1) = leftChars (splitChars s).2 k := by
  induction k with
  | zero => rfl
  | succ k ih => rw [leftChars, ih, leftChars]

theorem splitChars_snd_suffix (s : List Char) : (splitChars s).2 <:+ s :=
  (List.dropWhile_suffix _).trans ((List.dropWhile_suffix _).trans (List.dropWhile_suffix _))

theorem splitChars_snd_head? (s : List Char) : (splitChars s).2.head? ≠ some ' ' :=
  head?_dropWhile_space _

/-- A word that is taken off makes the text shorter. -/
theorem length_splitChars_snd (h : (splitChars s).1 ≠ []) :
    (splitChars s).2.length < s.length := by
  obtain ⟨word, rest, hcut⟩ := exists_cut s
  rw [hcut.splitChars_eq] at h ⊢
  cases hcut with
  | blank => exact absurd rfl h
  | word indent gap hword =>
    have hpos : 0 < word.length := List.length_pos_iff.mpr hword.ne_nil
    simp only [List.length_append]
    omega

theorem leftChars_suffix (s : List Char) (k : Nat) : leftChars s k <:+ s := by
  induction k with
  | zero => exact List.suffix_rfl
  | succ k ih => exact (splitChars_snd_suffix _).trans ih

/-- The words are taken off in their order, and then there are empty ones. -/
theorem splitChars_leftChars (s : List Char) (k : Nat) :
    (splitChars (leftChars s k)).1 = (wordsOf s)[k]?.getD [] := by
  induction k generalizing s with
  | zero =>
    rw [wordsOf_eq]
    split
    · rename_i hnone
      exact hnone
    · rfl
  | succ k ih =>
    rw [leftChars_succ, ih, wordsOf_eq s]
    split
    · rename_i hnone
      -- without a word nothing is left
      obtain ⟨word, rest, hcut⟩ := exists_cut s
      rw [hcut.splitChars_eq] at hnone ⊢
      cases hcut with
      | blank => rfl
      | word indent gap hword => exact absurd hnone hword.ne_nil
    · rfl

/-- A text that does not begin with a space begins with its first word. -/
theorem drop_wordStarts_zero (hs : s.head? ≠ some ' ') :
    s.drop ((wordStarts s)[0]?.getD s.length) = s := by
  cases s with
  | nil => rfl
  | cons c s =>
    have hc : c ≠ ' ' := fun he => hs (congrArg some he)
    rw [wordStarts_letter hc]
    rfl

/-- What is left is the text from one of its words on. -/
theorem leftChars_eq_drop (s : List Char) (k : Nat) (hs : k = 0 → s.head? ≠ some ' ') :
    leftChars s k = s.drop ((wordStarts s)[k]?.getD s.length) := by
  induction k generalizing s with
  | zero => exact (drop_wordStarts_zero (hs rfl)).symm
  | succ k ih =>
    obtain ⟨word, rest, hcut⟩ := exists_cut s
    have hsplit := hcut.splitChars_eq
    have hhead : rest.head? ≠ some ' ' := by
      have h := splitChars_snd_head? s
      rwa [hsplit] at h
    rw [leftChars_succ, hsplit, ih rest fun _ => hhead]
    rcases hcut.wordStarts_eq with ⟨-, rfl, hnone⟩ | ⟨-, start, offset, hdrop, -, hstarts⟩
    · rw [hnone, List.drop_nil, List.getElem?_nil, Option.getD_none, List.drop_length]
    · rw [hstarts, List.getElem?_cons_succ, List.getElem?_map]
      cases (wordStarts rest)[k]? with
      | none =>
        rw [Option.map_none, Option.getD_none, Option.getD_none, List.drop_length, List.drop_length]
      | some i =>
        rw [Option.map_some, Option.getD_some, Option.getD_some, ← hdrop, List.drop_drop]

/-- The words stand where words begin. -/
theorem wordsOf_eq_map_wordStarts (s : List Char) :
    wordsOf s = (wordStarts s).map fun i => (s.drop i).takeWhile (· != ' ') := by
  induction hlength : s.length using Nat.strong_induction_on generalizing s with
  | _ length ih =>
    subst hlength
    obtain ⟨word, rest, hcut⟩ := exists_cut s
    have hsplit := hcut.splitChars_eq
    rw [wordsOf_eq, hsplit]
    rcases hcut.wordStarts_eq with
      ⟨hnone, -, hstarts⟩ | ⟨hword, start, offset, hdrop, htake, hstarts⟩
    · rw [if_pos hnone, hstarts, List.map_nil]
    · have hless : (splitChars s).2.length < s.length := by
        refine length_splitChars_snd ?_
        rw [hsplit]
        exact hword.ne_nil
      rw [hsplit] at hless
      rw [if_neg hword.ne_nil, hstarts, List.map_cons, htake, ih _ hless rest rfl, List.map_map]
      refine congrArg (word :: ·) (List.map_congr_left fun i _ => ?_)
      change _ = (s.drop (offset + i)).takeWhile _
      rw [← hdrop, List.drop_drop]

/-- None of the words is empty, and there is no space in them. -/
theorem isWord_of_mem_wordsOf (h : word ∈ wordsOf s) : IsWord word := by
  rw [wordsOf_eq_map_wordStarts] at h
  obtain ⟨i, hi, rfl⟩ := List.mem_map.mp h
  have hbegins : beginsWord s i = true := (List.mem_filter.mp hi).2
  rw [beginsWord, Bool.and_eq_true, Option.any_eq_true] at hbegins
  obtain ⟨⟨c, hc, hletter⟩, -⟩ := hbegins
  refine ⟨?_, fun hspace => ?_⟩
  · obtain ⟨hlt, rfl⟩ := List.getElem?_eq_some_iff.mp hc
    rw [List.drop_eq_getElem_cons hlt, List.takeWhile_cons, if_pos hletter]
    exact List.cons_ne_nil _ _
  · cases List.mem_takeWhile_imp hspace

/-! ## Texts -/

/-- What is left of a text when so many words have been taken off it. -/
def left (s : String) : Nat → String
  | 0 => s
  | k + 1 => (split (left s k)).2

theorem toList_left (s : String) (k : Nat) : (left s k).toList = leftChars s.toList k := by
  induction k with
  | zero => rfl
  | succ k ih => rw [left, toList_split_snd, ih, leftChars]

theorem left_succ (s : String) (k : Nat) : left s (k + 1) = left (split s).2 k := by
  rw [← String.toList_inj, toList_left, toList_left, leftChars_succ, toList_split_snd]

/-- The words are taken off one after the other, each from what was left before. -/
theorem splits_eq_map (n : Nat) (s : String) :
    splits n s = (List.range n).map fun k => split (left s k) := by
  induction n generalizing s with
  | zero => rfl
  | succ n ih =>
    rw [splits, ih, List.range_succ_eq_map, List.map_cons, List.map_map]
    refine congrArg (split s :: ·) (List.map_congr_left fun k _ => ?_)
    rw [Function.comp_apply, Nat.succ_eq_add_one, left_succ]

theorem split_left_fst (s : String) (k : Nat) : (split (left s k)).1 = (words s)[k]?.getD "" := by
  rw [← String.toList_inj, toList_split_fst, toList_left, splitChars_leftChars, words,
    List.getElem?_map]
  cases (wordsOf s.toList)[k]? with
  | none => rfl
  | some word => exact (String.toList_ofList).symm

/-- A text gets shorter as long as words are taken off it. -/
theorem length_left_succ {s : String} (hk : k < (words s).length) :
    (left s (k + 1)).length < (left s k).length := by
  rw [words, List.length_map] at hk
  rw [← String.length_toList, ← String.length_toList, toList_left, toList_left]
  apply length_splitChars_snd
  rw [splitChars_leftChars, List.getElem?_eq_getElem hk, Option.getD_some]
  exact (isWord_of_mem_wordsOf (List.getElem_mem hk)).ne_nil

/-- Taking words off a text one after the other, each from what was left before, gives the
pieces between its spaces that are not empty, in their order, and then empty words for ever.
What is left each time is the end of the text and does not begin with a space, and it gets
shorter as long as there are words. It is the text from the next word on, as it stands. -/
theorem repeated_splits (s : String) :
    (∀ n, splits n s =
      (List.range n).map fun k => ((words s)[k]?.getD "", left s (k + 1))) ∧
    (∀ word ∈ words s, word ≠ "" ∧ ' ' ∉ word.toList) ∧
    (∀ k, (left s (k + 1)).toList <:+ s.toList ∧ (left s (k + 1)).toList.head? ≠ some ' ') ∧
    (∀ k < (words s).length, (left s (k + 1)).length < (left s k).length) ∧
    (words s = (wordStarts s.toList).map fun i =>
      String.ofList ((s.toList.drop i).takeWhile (· != ' '))) ∧
    ∀ k, (left s (k + 1)).toList =
      s.toList.drop ((wordStarts s.toList)[k + 1]?.getD s.length) := by
  refine ⟨fun n => ?_, fun word hword => ?_, fun k => ?_, fun k => length_left_succ, ?_,
    fun k => ?_⟩
  · rw [splits_eq_map]
    refine List.map_congr_left fun k _ => ?_
    rw [← split_left_fst, left]
  · obtain ⟨chars, hchars, rfl⟩ := List.mem_map.mp hword
    obtain ⟨hne, hspace⟩ := isWord_of_mem_wordsOf hchars
    rw [String.toList_ofList]
    refine ⟨fun hempty => hne ?_, hspace⟩
    rw [← String.toList_ofList (l := chars), hempty, String.toList_empty]
  · rw [toList_left]
    exact ⟨leftChars_suffix s.toList (k + 1), splitChars_snd_head? _⟩
  · rw [words, wordsOf_eq_map_wordStarts, List.map_map]
    rfl
  · rw [toList_left, leftChars_eq_drop s.toList (k + 1) (absurd · k.succ_ne_zero),
      String.length_toList]

end RelayChat.Words
