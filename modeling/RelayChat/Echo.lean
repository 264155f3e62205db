import RelayChat.Multiplexer

/-!
# A handler that sends back what it gets

A handler for exercising the multiplexer: it greets every connection, sends
every line back, and closes a connection that says farewell. It also makes all
the calls that must have no effect: to a connection that does not exist, to one
that is to be closed, and to one that is gone.
-/

namespace RelayChat.Echo

/-- The line by which a connection asks to be closed. -/
def farewell : String := "bye"

/-- A handle that no connection has. -/
def nobody : Handle := 0xFFFFFFFFFFFFFFFF

/-- The answer to a line. -/
def answer (id : Handle) (text : String) : List (Outgoing String) :=
  [.send id ("echo " ++ text ++ "\r\n")] ++
    (if text = farewell then [.disconnect id, .disconnect id, .send id "late\r\n"] else []) ++
    [.send nobody "nobody\r\n", .disconnect nobody]

/-- The handler. -/
def handler : Handler Unit where
  react _ _
    | .connect id => ((), [.send id "welcome\r\n"])
    | .line id text => ((), answer id text)
    | .drop id => ((), [.send id "unreachable\r\n", .broadcast "left\r\n"])

end RelayChat.Echo
