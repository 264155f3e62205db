/-!
# Words of a command line

Parameters of a chat command are words separated by runs of spaces, and the
last parameter may be free text introduced by a colon. `split` takes the first
word off a text and leaves the rest with its inner spacing untouched,
`trailing` removes the colon that introduces free text, and `firstParameter` reads
a text that is either one word or free text. Only the space character
separates words: tabs and other blanks belong to them.
-/

namespace RelayChat.Words

/-- The first word of `s`, and what follows it without its leading spaces.
Both are empty when `s` holds no word. -/
def splitChars (s : List Char) : List Char × List Char :=
  let start := s.dropWhile (· == ' ')
  (start.takeWhile (· != ' '), (start.dropWhile (· != ' ')).dropWhile (· == ' '))

/-- The first word of a text, and the text that begins at its second word. -/
def split (s : String) : String × String :=
  let parts := splitChars s.toList
  (String.ofList parts.1, String.ofList parts.2)

/-- The text without one leading colon, if it has one. -/
def trailingChars : List Char → List Char
  | ':' :: text => text
  | text => text

/-- Free text as it was meant: one leading colon only introduces it. -/
def trailing (s : String) : String :=
  String.ofList (trailingChars s.toList)

/-- The first parameter of a command's tail: all of it when a colon introduces
free text, and its first word otherwise. -/
def firstParameter (tail : String) : String :=
  if tail.toList.head? = some ':' then trailing tail else (split tail).1

/-- Taking `n` words off a text one after the other, each time from what the
previous one left. -/
def splits : Nat → String → List (String × String)
  | 0, _ => []
  | n + 1, s => split s :: splits n (split s).2

theorem toList_split_fst (s : String) :
    (split s).1.toList = (splitChars s.toList).1 := by
  simp [split]

theorem toList_split_snd (s : String) :
    (split s).2.toList = (splitChars s.toList).2 := by
  simp [split]

theorem toList_trailing (s : String) :
    (trailing s).toList = trailingChars s.toList := by
  simp [trailing]

end RelayChat.Words
