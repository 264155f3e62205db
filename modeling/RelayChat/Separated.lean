/-!
# Texts with separators

A text with a separator between its parts, such as the dots of an address or
the slashes of a path. There is one part more than there are separators, and a
part may be empty.
-/

namespace RelayChat.Separated

/-- The parts of a text. -/
def parts (separator : Char) : List Char → List (List Char)
  | [] => [[]]
  | c :: rest =>
    if c = separator then [] :: parts separator rest
    else
      match parts separator rest with
      | [] => [[c]]
      | part :: others => (c :: part) :: others

end RelayChat.Separated
