import Mathlib.Data.List.TakeWhile
import RelayChat.Proofs.SoundStates

/-!
# Whose signature it is

A signature is the nickname, an exclamation mark, and the names behind it. Whoever reads
it takes what stands before the first exclamation mark for the nickname
(`Origin.shownNickname`), and the same mark ends the reading of the nickname itself. So
the reading is right exactly for nicknames without the mark.

Nothing keeps the mark out of nicknames. A nickname that goes on after it is shown as a
shorter one, and its signature may be that of whoever holds the shorter one. It can be
nobody else's: of two equal signatures one nickname continues the other
(`Origin.continues_of_render_eq`).
-/

namespace RelayChat

open Directory

namespace Origin

/-- The nickname that is read from a signature: what stands before its first exclamation
mark. -/
def shownNickname (signature : String) : String :=
  String.ofList (signature.toList.takeWhile (· != '!'))

/-- The longer nickname begins with the other one and an exclamation mark. -/
def Continues (nickname longer : String) : Prop :=
  nickname.toList ++ ['!'] <+: longer.toList

instance (nickname longer : String) : Decidable (Continues nickname longer) :=
  inferInstanceAs (Decidable (nickname.toList ++ ['!'] <+: longer.toList))

variable {nickname username hostname other : String}

/-- A signature begins with its nickname and the mark. -/
theorem prefix_render :
    nickname.toList ++ ['!'] <+: (user nickname username hostname).render.toList :=
  ⟨username.toList ++ '@' :: hostname.toList, by simp [render]⟩

/-- Nothing behind the first mark is read. -/
theorem takeWhile_of_begins {name signature : List Char} (h : name ++ ['!'] <+: signature) :
    signature.takeWhile (· != '!') = name.takeWhile (· != '!') := by
  obtain ⟨behind, rfl⟩ := h
  rw [List.append_assoc, List.takeWhile_append]
  split
  · rename_i hlength
    have hbegins : name.takeWhile (· != '!') <+: name := List.takeWhile_prefix _
    have hall : name.takeWhile (· != '!') = name := hbegins.eq_of_length hlength
    rw [hall, List.singleton_append, List.takeWhile_cons_of_neg (by decide), List.append_nil]
  · rfl

/-- What is read from a signature is what is read from its nickname. -/
theorem shownNickname_render :
    shownNickname (user nickname username hostname).render = shownNickname nickname := by
  rw [shownNickname, takeWhile_of_begins prefix_render, shownNickname]

/-- A nickname is read in full exactly if the mark is not in it. -/
theorem shownNickname_eq_self_iff : shownNickname nickname = nickname ↔ '!' ∉ nickname.toList := by
  rw [shownNickname, ← String.toList_inj, String.toList_ofList, List.takeWhile_eq_self_iff]
  constructor
  · intro h hmem
    exact absurd (h '!' hmem) (by decide)
  · intro h c hc
    exact bne_iff_ne.mpr fun he => h (he ▸ hc)

/-- A nickname that continues another one has the mark in it. -/
theorem Continues.mem (h : Continues nickname other) : '!' ∈ other.toList :=
  h.subset (List.mem_append_right _ (List.mem_singleton_self _))

/-- Of two nicknames that begin the same text, each with the mark behind it, the longer
one continues the shorter one. -/
theorem continues_of_begins (h : nickname.toList ++ ['!'] <+: other.toList ++ ['!'])
    (hne : nickname ≠ other) : Continues nickname other := by
  rcases List.prefix_concat_iff.mp h with he | hbegins
  · exact absurd (String.toList_inj.mp (List.append_cancel_right he)) hne
  · exact hbegins

/-- Two nicknames share a signature only if one continues the other. -/
theorem continues_of_render_eq {otherUser otherHost : String} (hne : nickname ≠ other)
    (h : (user nickname username hostname).render = (user other otherUser otherHost).render) :
    Continues nickname other ∨ Continues other nickname := by
  have hfirst : nickname.toList ++ ['!'] <+: (user other otherUser otherHost).render.toList :=
    h ▸ prefix_render
  rcases List.prefix_or_prefix_of_prefix hfirst prefix_render with hshort | hlong
  · exact Or.inl (continues_of_begins hshort hne)
  · exact Or.inr (continues_of_begins hlong hne.symm)

end Origin

namespace Session

variable {s : Session} {n : String}

/-- The signature of a session begins with its nickname. -/
theorem signature_eq (hn : s.nickname = some n) : ∃ username hostname,
    s.signature = (Origin.user n username hostname).render := by
  refine ⟨s.username.getD unset, s.hostname.getD unset, ?_⟩
  rw [signature, origin, address, hn, Option.getD_some]

end Session

namespace Relay

/-- Whose signature it is, in every state that a run reaches. Two connections that are logged in
have one signature only if the nickname of one continues that of the other after an exclamation
mark, and what is read from a signature is the nickname exactly if it has no such mark. -/
theorem signatures_identify (site : Site) {events : List Event} (fresh : FreshHandles events) :
    let d := run site .empty events
    (∀ id s, d.session? id = some s → s.loggedIn = true →
      ∃ n, s.nickname = some n ∧ d.holder? n = some id ∧
        (Origin.shownNickname s.signature = n ↔ '!' ∉ n.toList)) ∧
      ∀ id k s t, id ≠ k → d.session? id = some s → d.session? k = some t →
        s.loggedIn = true → t.loggedIn = true →
        ∃ n m, s.nickname = some n ∧ t.nickname = some m ∧
          (s.signature = t.signature → Origin.Continues n m ∨ Origin.Continues m n) ∧
          ('!' ∉ n.toList → '!' ∉ m.toList → s.signature ≠ t.signature) := by
  intro d
  have hd : d.Sound := run_sound site fresh
  -- whoever is logged in has a nickname
  have hnamed : ∀ id s, d.session? id = some s → s.loggedIn = true →
      ∃ n, s.nickname = some n ∧ d.nickname? id = some n := by
    intro id s hs hin
    obtain ⟨n, _, _, hn, -⟩ := hd.admissible.exists_names hs hin
    exact ⟨n, hn, (nickname?_of_session? hs).trans hn⟩
  constructor
  · intro id s hs hin
    obtain ⟨n, hn, hnick⟩ := hnamed id s hs hin
    obtain ⟨username, hostname, hsignature⟩ := Session.signature_eq hn
    refine ⟨n, hn, (hd.agree.holder_iff n id).mpr hnick, ?_⟩
    rw [hsignature, Origin.shownNickname_render, Origin.shownNickname_eq_self_iff]
  · intro id k s t hne hs ht hin hin'
    obtain ⟨n, hn, hnick⟩ := hnamed id s hs hin
    obtain ⟨m, hm, hnick'⟩ := hnamed k t ht hin'
    obtain ⟨username, hostname, hsignature⟩ := Session.signature_eq hn
    obtain ⟨otherUser, otherHost, hsignature'⟩ := Session.signature_eq hm
    have hnicks : n ≠ m := by
      rintro rfl
      exact hne (hd.agree.eq_of_nickname? hnick hnick')
    have hcontinues : s.signature = t.signature →
        Origin.Continues n m ∨ Origin.Continues m n := by
      intro he
      rw [hsignature, hsignature'] at he
      exact Origin.continues_of_render_eq hnicks he
    refine ⟨n, m, hn, hm, hcontinues, fun hfree hfree' he => ?_⟩
    exact (hcontinues he).elim (fun h => hfree' h.mem) fun h => hfree h.mem

/-- At the meeting bob's signature shows bob, and ann, who calls herself eve, has another
one. -/
theorem signatures_identify_meeting :
    let d := run .sample .empty meeting
    FreshHandles meeting ∧ ∃ s t, d.session? 1 = some s ∧ d.session? 2 = some t ∧
      s.loggedIn = true ∧ t.loggedIn = true ∧ t.signature = "bob!bob@host" ∧
      Origin.shownNickname t.signature = "bob" ∧ s.signature ≠ t.signature := by
  intro d
  have fresh : FreshHandles meeting := by decide
  have hs : d.session? 1 =
      some ⟨some "eve", some "ann", some "host", true, false, false, true, none⟩ := by
    decide +kernel
  have ht : d.session? 2 =
      some ⟨some "bob", some "bob", some "host", true, false, false, true, none⟩ := by
    decide +kernel
  obtain ⟨hshown, hdistinct⟩ := signatures_identify .sample fresh
  obtain ⟨n, hn, -, hread⟩ := hshown 2 _ ht rfl
  cases hn
  obtain ⟨n, m, hn, hm, -, hne⟩ := hdistinct 1 2 _ _ (by decide) hs ht rfl rfl
  cases hn
  cases hm
  exact ⟨fresh, _, _, hs, ht, rfl, rfl, rfl, hread.mpr (by decide),
    hne (by decide) (by decide)⟩

/-- Ann, whose user name has an exclamation mark in it, and somebody whose nickname goes
on where hers ends. -/
def disguise : List Event :=
  [.connect 1, .line 1 "PASS secret", .line 1 "NICK ann", .line 1 "USER x!y host",
    .connect 2, .line 2 "PASS secret", .line 2 "NICK ann!x", .line 2 "USER y host"]

/-- The two are logged in under two nicknames and have one signature, which shows ann. -/
theorem signatures_identify_disguise :
    let d := run .sample .empty disguise
    FreshHandles disguise ∧ d.isLoggedIn 1 = true ∧ d.isLoggedIn 2 = true ∧
      d.nickname? 1 = some "ann" ∧ d.nickname? 2 = some "ann!x" ∧
      (d.session? 1).map Session.signature = some "ann!x!y@host" ∧
      (d.session? 2).map Session.signature = some "ann!x!y@host" ∧
      Origin.shownNickname "ann!x!y@host" ≠ "ann!x" := by
  decide +kernel

end Relay

end RelayChat
