import RelayChat.Settings

/-!
# Checking settings

Settings that were read may still be of no use. Checking reports every problem,
always in the same order.
-/

namespace RelayChat

/-- A problem with the settings. -/
inductive SettingsProblem where
  /-- The relay's name is empty. -/
  | missingName
  /-- The relay's name has spaces in it. -/
  | nameWithSpaces (name : String)
  /-- The password is empty. -/
  | missingPassword
  /-- The address to listen on is none. -/
  | badAddress (address : String)
  /-- There is no such level of logging. -/
  | badLevel (level : UInt8)
deriving DecidableEq, Repr

namespace SettingsProblem

/-- The problem as text. -/
def message : SettingsProblem → String
  | missingName => "server.name is required"
  | nameWithSpaces name => "server.name must not contain spaces, got '" ++ name ++ "'"
  | missingPassword => "server.password is required"
  | badAddress address =>
    "listen.address must be empty or an IPv4 literal, got '" ++ address ++ "'"
  | badLevel level => "logging.verbose must be 0, 1 or 2, got " ++ toString level.toNat

end SettingsProblem

namespace Settings

/-- What is wrong with the relay's name. -/
def nameProblems (name : String) : List SettingsProblem :=
  if name.isEmpty then [.missingName]
  else if name.toList.contains ' ' then [.nameWithSpaces name]
  else []

/-- What is wrong with the password. -/
def passwordProblems (password : String) : List SettingsProblem :=
  if password.isEmpty then [.missingPassword] else []

/-- What is wrong with where to listen. -/
def listenProblems (listen : ListenSettings) : List SettingsProblem :=
  match listen.endpoint with
  | .ok _ => []
  | .error _ => [.badAddress listen.address]

/-- What is wrong with what to log. -/
def levelProblems (level : UInt8) : List SettingsProblem :=
  match Verbosity.ofLevel level.toNat with
  | .ok _ => []
  | .error _ => [.badLevel level]

/-- Everything that is wrong with the settings. -/
def problems (settings : Settings) : List SettingsProblem :=
  nameProblems settings.identity.name ++ passwordProblems settings.identity.password ++
    listenProblems settings.listen ++ levelProblems settings.log.level

end Settings

end RelayChat
