/-!
# Nicknames and channel names

A nickname is any non-empty text without the three characters that carry
meaning in a command line and without spaces. A channel target is recognised by
its first character alone; a channel name is a target that is also short enough
and free of separators and control characters.
-/

namespace RelayChat.Names

/-- Whether a character may stand in a nickname. -/
def isNickChar (c : Char) : Bool :=
  c != '#' && c != ':' && c != ';' && c != ' '

/-- Whether a text may be taken as a nickname. -/
def isNickname (s : String) : Bool :=
  !s.toList.isEmpty && s.toList.all isNickChar

/-- Whether a message addressed to `s` goes to a channel and not to a user. -/
def isChannelTarget (s : String) : Bool :=
  match s.toList with
  | c :: _ => c == '#' || c == '&'
  | [] => false

/-- The control characters of Unicode, category `Cc`. -/
def isControl (c : Char) : Bool :=
  c.toNat < 0x20 || (0x7F ≤ c.toNat && c.toNat < 0xA0)

/-- Whether a character may stand in a channel name. -/
def isChannelChar (c : Char) : Bool :=
  c != ' ' && c != ',' && !isControl c

/-- The most characters that a channel name may have, its sign included. -/
def maxChannelLength : Nat := 50

/-- Whether a text may name a channel: a sign, at least one more character and
at most `maxChannelLength` in all. -/
def isChannelName (s : String) : Bool :=
  isChannelTarget s && 2 ≤ s.toList.length && s.toList.length ≤ maxChannelLength
    && s.toList.all isChannelChar

end RelayChat.Names
