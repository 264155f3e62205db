/-!
# Errors of the server

What can go wrong when the server is started or asked to wait: the address
cannot be bound, a setting is not acceptable, waiting fails, or the server is
not active at all.
-/

namespace RelayChat

/-- An error of the server. -/
inductive ServerError where
  /-- The address could not be bound, for a reason that the system gives. -/
  | bind (address source : String)
  /-- A setting is not acceptable. -/
  | settings (problem : String)
  /-- Waiting for activity failed, for a reason that the system gives. -/
  | poll (source : String)
  /-- The server is not active. -/
  | notActive
deriving DecidableEq, Repr

namespace ServerError

/-- The error as text. -/
def message : ServerError → String
  | bind address source => "failed to bind " ++ address ++ ": " ++ source
  | settings problem => "invalid server setting: " ++ problem
  | poll source => "readiness poll failed: " ++ source
  | notActive => "server is not active"

/-- The reason that the system gave, if it gave one. -/
def source? : ServerError → Option String
  | bind _ source | poll source => some source
  | settings _ | notActive => none

end ServerError

end RelayChat
