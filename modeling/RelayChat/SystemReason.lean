/-!
# Reasons that the system gives

When the system refuses something it gives a number, and messages show the
number after the system's own words for it.
-/

namespace RelayChat

/-- Why the system refused something. -/
structure SystemReason where
  /-- The reason in the system's words. -/
  words : String
  /-- The number of the reason. -/
  number : Nat
deriving DecidableEq, Repr

namespace SystemReason

/-- The reason as it is shown in messages. -/
def render (reason : SystemReason) : String :=
  reason.words ++ " (os error " ++ toString reason.number ++ ")"

/-- Nothing has the name. -/
def noSuchFile : SystemReason := ⟨"No such file or directory", 2⟩

/-- The file may not be read, or the port may not be used. -/
def permissionDenied : SystemReason := ⟨"Permission denied", 13⟩

/-- The path goes on after a name that is not that of a directory. -/
def notDirectory : SystemReason := ⟨"Not a directory", 20⟩

/-- The name is that of a directory. -/
def isDirectory : SystemReason := ⟨"Is a directory", 21⟩

/-- The path, or a name in it, is longer than any that exists. -/
def nameTooLong : SystemReason := ⟨"File name too long", 36⟩

/-- Another program listens there. -/
def addressInUse : SystemReason := ⟨"Address already in use", 98⟩

/-- The machine does not have the address. -/
def addressNotAvailable : SystemReason := ⟨"Cannot assign requested address", 99⟩

/-- No network leads to the address. -/
def networkUnreachable : SystemReason := ⟨"Network is unreachable", 101⟩

/-- The reasons whose words are known. -/
def known : List SystemReason :=
  [noSuchFile, permissionDenied, notDirectory, isDirectory, nameTooLong, addressInUse,
    addressNotAvailable, networkUnreachable]

/-- The reason of a number, in the given words if no others are known. -/
def ofNumber (number : Nat) (words : String) : SystemReason :=
  (known.find? fun reason => reason.number == number).getD ⟨words, number⟩

end SystemReason

end RelayChat
