import Mathlib.Data.List.Forall2
import RelayChat.Verb

/-!
# Which command a token names

A token names the command that is spelled like it but for the case of ASCII letters, and
there is at most one such command (`Verb.ofToken_eq_iff`). Two texts are the same in this
way if they are so character by character, where the capital and the small form of an ASCII
letter count as the same and all other characters only if they are equal
(`Verb.sameLetters_iff`). So letters beyond ASCII never stand for one of a command, whatever
they look like in capitals.
-/

namespace RelayChat

/-! ## Letters of either case -/

/-- The same character, or the capital and the small form of an ASCII letter. -/
inductive CaseVariant : Char → Char → Prop where
  /-- Nothing differs. -/
  | same (c : Char) : CaseVariant c c
  /-- The second is the small form of the first. -/
  | small {a b : Char} (ha : a.isUpper = true) (hb : b.toNat = a.toNat + 32) : CaseVariant a b
  /-- The second is the capital form of the first. -/
  | capital {a b : Char} (hb : b.isUpper = true) (ha : a.toNat = b.toNat + 32) : CaseVariant a b

theorem isUpper_iff_toNat {c : Char} : c.isUpper = true ↔ 65 ≤ c.toNat ∧ c.toNat ≤ 90 :=
  decide_eq_true_iff

theorem toNat_toLower_of_isUpper {c : Char} (h : c.isUpper = true) :
    c.toLower.toNat = c.toNat + 32 := by
  have hletter := isUpper_iff_toNat.mp h
  have hval : c.val.toNat = c.toNat := rfl
  have hlower : c.toLower = _ := dif_pos (of_decide_eq_true h)
  rw [hlower]
  -- nothing is carried, since the code of a capital is small
  change (c.val + 32).toNat = c.toNat + 32
  rw [UInt32.toNat_add, show (32 : UInt32).toNat = 32 from rfl]
  omega

theorem toLower_of_not_isUpper {c : Char} (h : ¬c.isUpper = true) : c.toLower = c :=
  dif_neg fun hletter => h (decide_eq_true hletter)

/-- Characters have the same small form if they are variants of each other. -/
theorem toLower_eq_toLower_iff {a b : Char} : a.toLower = b.toLower ↔ CaseVariant a b := by
  constructor
  · intro h
    by_cases ha : a.isUpper = true <;> by_cases hb : b.isUpper = true
    · have hcodes := congrArg Char.toNat h
      rw [toNat_toLower_of_isUpper ha, toNat_toLower_of_isUpper hb] at hcodes
      rw [Char.toNat_inj.mp (Nat.add_right_cancel hcodes)]
      exact .same b
    · rw [toLower_of_not_isUpper hb] at h
      exact .small ha (h ▸ toNat_toLower_of_isUpper ha)
    · rw [toLower_of_not_isUpper ha] at h
      exact .capital hb (h ▸ toNat_toLower_of_isUpper hb)
    · rw [toLower_of_not_isUpper ha, toLower_of_not_isUpper hb] at h
      rw [h]
      exact .same b
  · -- the small form of a capital is no capital itself
    have hsmall : ∀ {a b : Char}, a.isUpper = true → b.toNat = a.toNat + 32 →
        a.toLower = b.toLower := by
      intro a b ha hb
      have hletter := isUpper_iff_toNat.mp ha
      have hnot : ¬b.isUpper = true := by
        rw [isUpper_iff_toNat]
        omega
      rw [toLower_of_not_isUpper hnot, ← Char.toNat_inj, toNat_toLower_of_isUpper ha, hb]
    rintro (_ | ⟨ha, hb⟩ | ⟨hb, ha⟩)
    · rfl
    · exact hsmall ha hb
    · exact (hsmall hb ha).symm

/-! ## Tokens and commands -/

namespace Verb

variable {token a b : String} {verb : Verb}

/-- Texts are the same but for the case of ASCII letters if their characters are, one by one. -/
theorem sameLetters_iff :
    sameLetters a b = true ↔ List.Forall₂ CaseVariant a.toList b.toList := by
  rw [sameLetters, beq_iff_eq, ← List.forall₂_eq_eq_eq, List.forall₂_map_left_iff,
    List.forall₂_map_right_iff]
  simp only [toLower_eq_toLower_iff]

/-- No two commands are spelled alike. -/
theorem eq_of_sameLetters_spelling {other : Verb} (hverb : verb ∈ all) (hother : other ∈ all)
    (h : sameLetters other.spelling verb.spelling = true) : other = verb := by
  have hall : ∀ verb ∈ all, ∀ other ∈ all,
      sameLetters other.spelling verb.spelling = true → other = verb := by
    decide +kernel
  exact hall verb hverb other hother h

/-- Two commands whose spellings are both the same as a token are one. -/
theorem eq_of_sameLetters_token {other : Verb} (hverb : verb ∈ all) (hother : other ∈ all)
    (hsame : sameLetters verb.spelling token = true)
    (hsame' : sameLetters other.spelling token = true) : other = verb := by
  refine eq_of_sameLetters_spelling hverb hother ?_
  rw [sameLetters, beq_iff_eq] at hsame hsame' ⊢
  exact hsame'.trans hsame.symm

/-- A token that is spelled like no command names none. -/
theorem ofToken_eq_unknown_iff :
    ofToken token = unknown ↔ ∀ verb ∈ all, ¬sameLetters verb.spelling token = true := by
  rw [ofToken, ← List.find?_eq_none]
  cases hfind : all.find? (fun verb => sameLetters verb.spelling token) with
  | none => simp
  | some found =>
    have hfound : found ≠ unknown := mem_all.mp (List.mem_of_find?_eq_some hfind)
    simpa using hfound

/-- A token names the command that is spelled like it but for the case of its letters. -/
theorem ofToken_eq_iff (hknown : verb ≠ unknown) :
    ofToken token = verb ↔ sameLetters verb.spelling token = true := by
  cases hfind : all.find? (fun verb => sameLetters verb.spelling token) with
  | none =>
    have hnone := List.find?_eq_none.mp hfind
    rw [ofToken_eq_unknown_iff.mpr hnone]
    exact ⟨fun h => absurd h.symm hknown, fun h => absurd h (hnone verb (mem_all.mpr hknown))⟩
  | some found =>
    have hsame : sameLetters found.spelling token = true := by
      simpa using List.find?_some hfind
    rw [ofToken, hfind, Option.getD_some]
    constructor
    · rintro rfl
      exact hsame
    · exact fun h => eq_of_sameLetters_token (mem_all.mpr hknown)
        (List.mem_of_find?_eq_some hfind) h hsame

end Verb

end RelayChat
