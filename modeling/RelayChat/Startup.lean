import RelayChat.SettingsProblem

/-!
# Starting

Starting reads the settings, checks them, and asks for the address to listen
on. Each step may fail, and the start then ends with an error. On the way it
writes lines to a log, of which only those that are severe enough for the
chosen level are shown.
-/

namespace RelayChat

/-- How severe a line of the log is. -/
inductive Severity where
  /-- Something has failed. -/
  | error
  /-- Something has been done. -/
  | info
deriving DecidableEq, Repr

/-- A line of the log. -/
structure LogLine where
  /-- How severe it is. -/
  severity : Severity
  /-- Which part of the program wrote it. -/
  part : String
  /-- What it says. -/
  text : String
deriving DecidableEq, Repr

namespace LogLine

/-- The least level at which a line is shown. -/
def level (line : LogLine) : Verbosity :=
  match line.severity with
  | .error => .critical
  | .info => .connections

/-- Whether a line is shown at a level. -/
def shownAt (line : LogLine) (verbosity : Verbosity) : Bool :=
  line.level.level ≤ verbosity.level

/-- The line as it is written after the time. -/
def render (line : LogLine) : String :=
  (match line.severity with
    | .error => "ERROR "
    | .info => " INFO ") ++ line.part ++ ": " ++ line.text

end LogLine

/-- Why a start ended. -/
inductive StartError where
  /-- The settings could not be had. -/
  | settings (error : SettingsError)
  /-- The settings have so many problems. -/
  | problems (count : Nat)
  /-- The server could not be started, or failed later. -/
  | server (error : ServerError)
deriving DecidableEq, Repr

namespace StartError

/-- The error as text. -/
def message : StartError → String
  | settings error => error.message
  | problems count => "configuration has " ++ toString count ++ " error(s)"
  | server error => error.message

/-- What caused the error, if something else did. -/
def cause? : StartError → Option String
  | settings error => some error.source
  | problems _ => none
  | server error => error.source?

/-- What is written when the program ends with the error. -/
def report (error : StartError) : List String :=
  ("Error: " ++ error.message) ::
    match error.cause? with
    | some cause => ["", "Caused by:", "    " ++ cause]
    | none => []

/-- The status with which the program then ends. -/
def exitStatus : Nat := 1

end StartError

/-- A start with what it has logged. -/
structure Start where
  /-- The settings with the endpoint that was bound, or why the start ended. -/
  result : Except StartError (Settings × Endpoint)
  /-- The lines that are shown. -/
  log : List LogLine

namespace Start

/-- The program as a part of itself that writes to the log. -/
def program : String := "plexircd"

/-- Where the settings are when no path is given. -/
def standardPath : String := "config.toml"

/-- The path of the settings: the first argument, and others are ignored. -/
def path (args : List String) : String :=
  args.head?.getD standardPath

/-- The level at which a start logs: the chosen one if it exists. -/
def verbosity (settings : Except SettingsError Settings) : Verbosity :=
  match settings with
  | .error _ => .connections
  | .ok settings => (Verbosity.ofLevel settings.log.level.toNat).toOption.getD .connections

/-- The line for settings that could not be had. -/
def notLoaded (path : String) (error : SettingsError) : LogLine :=
  ⟨.error, program, "Failed to load config path=" ++ path ++ " error=" ++ error.message⟩

/-- The line for a problem with the settings. -/
def invalid (problem : SettingsProblem) : LogLine :=
  ⟨.error, program, "Invalid configuration error=" ++ problem.message⟩

/-- The line for settings that are in order. -/
def starting (settings : Settings) : LogLine :=
  ⟨.info, program, "Starting plexircd server=" ++ settings.identity.name ++ " network=" ++
    settings.identity.network ++ " port=" ++ toString settings.listen.port.toNat⟩

/-- The line for an endpoint that is listened on. -/
def accepting (bound : Endpoint) : LogLine :=
  ⟨.info, program, "Accepting connections addr=" ++ bound.render⟩

/-- Asks for the address to listen on. -/
def bind (tryBind : Endpoint → Except String Endpoint) (listen : ListenSettings) :
    Except ServerError Endpoint := do
  let wanted ← listen.endpoint
  match tryBind wanted with
  | .ok bound => .ok bound
  | .error source => .error (.bind wanted.render source)

/-- The endpoint that a start asks for, if it comes that far. -/
def wanted? (file : Except String (List UInt8)) : Option Endpoint := do
  let settings ← (Settings.load file).toOption
  if settings.problems.isEmpty then settings.listen.endpoint.toOption else none

/-- Starts with the settings at a path, whose file is given as it was read, on a
machine that binds an endpoint or says why it does not. -/
def run (path : String) (file : Except String (List UInt8))
    (tryBind : Endpoint → Except String Endpoint) : Start :=
  let loaded := Settings.load file
  let shown := List.filter (LogLine.shownAt · (verbosity loaded))
  match loaded with
  | .error error => ⟨.error (.settings error), shown [notLoaded path error]⟩
  | .ok settings =>
    let problems := settings.problems
    if !problems.isEmpty then
      ⟨.error (.problems problems.length), shown (problems.map invalid)⟩
    else match bind tryBind settings.listen with
      | .error error => ⟨.error (.server error), shown [starting settings]⟩
      | .ok bound => ⟨.ok (settings, bound), shown [starting settings, accepting bound]⟩

end Start

end RelayChat
