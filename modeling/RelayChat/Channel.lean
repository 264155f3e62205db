import Std.Data.ExtTreeSet

/-!
# Channels

A channel knows its members by their nicknames. Whoever creates it is its
operator; operators are set apart in the list of names by a sign. Both sets are
kept in the order of their texts, which is the order of their UTF-8 bytes.
-/

namespace RelayChat

/-- A set of nicknames in byte order. -/
abbrev NicknameSet := Std.ExtTreeSet String

/-- A channel. -/
structure Channel where
  /-- The name it was created with. -/
  name : String
  /-- Its topic; the empty text when none is set. -/
  topic : String
  /-- The nicknames of all who are on it. -/
  members : NicknameSet
  /-- The nicknames of its operators. -/
  operators : NicknameSet
deriving DecidableEq

namespace Channel

/-- Whether somebody of that nickname is on the channel. -/
def isMember (c : Channel) (nickname : String) : Bool :=
  c.members.contains nickname

/-- Whether somebody of that nickname is an operator. -/
def isOperator (c : Channel) (nickname : String) : Bool :=
  c.operators.contains nickname

/-- Nobody is on the channel. -/
def isEmpty (c : Channel) : Bool :=
  c.members.isEmpty

/-- The channel with one more plain member. -/
def add (c : Channel) (nickname : String) : Channel :=
  { c with members := c.members.insert nickname }

/-- The channel with one more operator. -/
def promote (c : Channel) (nickname : String) : Channel :=
  { c with operators := c.operators.insert nickname }

/-- A channel whose creator is its only member and operator. -/
def create (name creator : String) : Channel :=
  ((⟨name, "", ∅, ∅⟩ : Channel).add creator).promote creator

/-- The channel without that nickname. -/
def remove (c : Channel) (nickname : String) : Channel :=
  { c with members := c.members.erase nickname, operators := c.operators.erase nickname }

/-- The set with `new` in the place of `old`, if `old` is in it. -/
def renameIn (set : NicknameSet) (old new : String) : NicknameSet :=
  if set.contains old then (set.erase old).insert new else set

/-- The channel after the holder of `old` has taken the nickname `new`. -/
def rename (c : Channel) (old new : String) : Channel :=
  { c with members := renameIn c.members old new, operators := renameIn c.operators old new }

/-- The sign in front of an operator's nickname. -/
def operatorSign : String := "@"

/-- The entries of the list of names: operators with their sign, then all other
members. -/
def nameEntries (c : Channel) : List String :=
  c.operators.toList.map (operatorSign ++ ·) ++
    c.members.toList.filter fun nickname => !c.isOperator nickname

/-- The list of names as one text. -/
def namesList (c : Channel) : String :=
  " ".intercalate c.nameEntries

end Channel

end RelayChat
