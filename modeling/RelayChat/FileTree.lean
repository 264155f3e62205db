import RelayChat.Separated
import RelayChat.SystemReason

/-!
# Files by their paths

A tree of directories and files, and what reading a path gives. A path is
walked name by name, from the working directory or from the top of the tree, so
that every name but the last must be that of a directory, and the first name
that leads nowhere decides what is wrong.
-/

namespace RelayChat

/-- What stands under a name. -/
inductive FileTree where
  /-- A file with its bytes. -/
  | file (bytes : List UInt8)
  /-- A directory with what stands in it, by name. -/
  | directory (entries : List (String × FileTree))
deriving Inhabited

/-- A place in a tree. -/
structure Place where
  /-- What stands there. -/
  here : FileTree
  /-- The directories around it, the nearest first. -/
  around : List FileTree

namespace Place

/-- The most bytes of a name. -/
def nameLimit : Nat := 255

/-- The most bytes of a path. -/
def pathLimit : Nat := 4095

/-- The top of a tree. -/
def top (tree : FileTree) : Place := ⟨tree, []⟩

/-- The directory around a place; the top is around itself. -/
def parent (place : Place) : Place :=
  match place.around with
  | [] => place
  | nearest :: others => ⟨nearest, others⟩

/-- The place one name further. An empty name and a dot stay, and two dots go
back. -/
def step (place : Place) (name : String) : Except SystemReason Place :=
  match place.here with
  | .file _ => .error .notDirectory
  | .directory entries =>
    if name = "" ∨ name = "." then .ok place
    else if name = ".." then .ok place.parent
    else if nameLimit < name.utf8ByteSize then .error .nameTooLong
    else
      match entries.lookup name with
      | none => .error .noSuchFile
      | some tree => .ok ⟨tree, place.here :: place.around⟩

/-- Where a path with a slash in front begins. -/
def start (place : Place) (path : List Char) : Place :=
  if path.head? = some '/' then top (place.around.getLast?.getD place.here) else place

/-- The place that a path leads to. -/
def walk (place : Place) (path : String) : Except SystemReason Place :=
  if path = "" then .error .noSuchFile
  else if pathLimit < path.utf8ByteSize then .error .nameTooLong
  else ((Separated.parts '/' path.toList).map String.ofList).foldlM step (place.start path.toList)

/-- The bytes of the file that a path leads to. -/
def read (place : Place) (path : String) : Except SystemReason (List UInt8) := do
  match (← place.walk path).here with
  | .file bytes => return bytes
  | .directory _ => throw .isDirectory

end Place

end RelayChat
