import RelayChat.Verb
import RelayChat.Words

/-!
# Requests

One inbound line, taken apart as far as all commands agree: an optional origin
word that is skipped, the command token, and a tail that each command reads in
its own way.
-/

namespace RelayChat

/-- A line that holds a command. -/
structure Request where
  /-- The command token as it was sent. -/
  token : String
  /-- What follows the token, without leading spaces. -/
  tail : String
deriving DecidableEq, Repr

namespace Request

/-- The characters that end a line. -/
def isLineEnd (c : Char) : Bool :=
  c == '\r' || c == '\n'

/-- The line without the line ends it closes with. -/
def trimLineEnds (line : List Char) : List Char :=
  (line.reverse.dropWhile isLineEnd).reverse

/-- The line from its command token on: leading spaces are dropped, and then a
first word that begins with a colon. -/
def skipOrigin (line : List Char) : List Char :=
  let start := line.dropWhile (· == ' ')
  if start.head? = some ':' then (Words.splitChars start).2 else start

/-- Reads a line; `none` when it has no command token. -/
def parse? (line : String) : Option Request :=
  let parts := Words.splitChars (skipOrigin (trimLineEnds line.toList))
  if parts.1.isEmpty then none
  else some ⟨String.ofList parts.1, String.ofList parts.2⟩

/-- The command that the line asks for. -/
def verb (request : Request) : Verb :=
  Verb.ofToken request.token

end Request

end RelayChat
