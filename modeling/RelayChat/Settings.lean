import RelayChat.Ipv4
import RelayChat.LossyUtf8
import RelayChat.QuotedText
import RelayChat.ServerError
import RelayChat.TomlDocument

/-!
# Settings

What an operator can choose: the relay's identity and password, where it
listens, and how much it logs. Settings are read from a TOML document, in which
unknown names are ignored and most known ones have a default.
-/

namespace RelayChat

/-- How much is logged. -/
inductive Verbosity where
  /-- Only what is critical. -/
  | critical
  /-- Also who comes and goes. -/
  | connections
  /-- Also what is sent, and details. -/
  | debug
deriving DecidableEq, Repr

namespace Verbosity

/-- The level by its number. -/
def ofLevel (level : Nat) : Except ServerError Verbosity :=
  match level with
  | 0 => .ok critical
  | 1 => .ok connections
  | 2 => .ok debug
  | other => .error (.settings ("verbosity level " ++ toString other ++ " does not exist"))

/-- The number of a level. -/
def level : Verbosity → Nat
  | critical => 0
  | connections => 1
  | debug => 2

/-- What is logged when nothing is chosen. -/
def standard : Verbosity := critical

/-- The least severity that the log shows at a level. -/
def filter : Verbosity → String
  | critical => "error"
  | connections => "info"
  | debug => "debug"

end Verbosity

/-- The relay's identity. -/
structure IdentitySettings where
  /-- The relay's name. -/
  name : String
  /-- What a connection must say to log in. -/
  password : String
  /-- The name of the network. -/
  network : String
deriving DecidableEq, Repr

/-- Where the relay listens. -/
structure ListenSettings where
  /-- The port. -/
  port : UInt16
  /-- The address as it was written; empty for all addresses of the machine. -/
  address : String
deriving DecidableEq, Repr

namespace ListenSettings

/-- The endpoint to listen on. -/
def endpoint (listen : ListenSettings) : Except ServerError Endpoint :=
  if listen.address.isEmpty then .ok ⟨Ipv4.unspecified, listen.port⟩
  else match Ipv4.parse? listen.address with
    | some ip => .ok ⟨ip, listen.port⟩
    | none => .error (.settings ("invalid IPv4 address " ++ QuotedText.quote listen.address))

end ListenSettings

/-- What the relay logs and how often it looks up. -/
structure LogSettings where
  /-- The number of the level. -/
  level : UInt8
  /-- How many milliseconds it waits for activity at most. -/
  tick : UInt64
deriving DecidableEq, Repr

namespace LogSettings

/-- What holds when nothing is chosen. -/
def standard : LogSettings := ⟨1, 50⟩

end LogSettings

/-- All settings. -/
structure Settings where
  /-- The relay's identity. -/
  identity : IdentitySettings
  /-- Where it listens. -/
  listen : ListenSettings
  /-- What it logs. -/
  log : LogSettings
deriving DecidableEq, Repr

/-- Why settings could not be had. -/
inductive SettingsError where
  /-- The file could not be read, for a reason that the system gives. -/
  | unreadable (source : String)
  /-- The document is malformed. -/
  | malformed
  /-- The document does not hold the settings that are needed. -/
  | unsuitable
deriving DecidableEq, Repr

namespace SettingsError

/-- What comes before every explanation of why a document was not accepted. -/
def notAccepted : String := "failed to parse config"

/-- The reason for not accepting a document, or the reason the system gave. -/
def source : SettingsError → String
  | unreadable source => source
  | malformed => "malformed document"
  | unsuitable => "missing or unsuitable value"

/-- The error as text. -/
def message : SettingsError → String
  | unreadable source => "failed to read config file: " ++ source
  | e => notAccepted ++ ": " ++ e.source

end SettingsError

namespace Settings

/-- The network's name when none is chosen. -/
def standardNetwork : String := "PlexNet"

/-- A field with a default: absent, or read by `read`. -/
def optional (node : TomlNode) (index : Nat) (name : String) (read : TomlNode → Option α)
    (default : α) : Option α := do
  match ← node.field? index name with
  | none => return default
  | some value => read value

/-- A field without a default. -/
def required (node : TomlNode) (index : Nat) (name : String) (read : TomlNode → Option α) :
    Option α := do
  match ← node.field? index name with
  | none => none
  | some value => read value

/-- Reads the identity. -/
def identity? (node : TomlNode) : Option IdentitySettings := do
  return { name := ← required node 0 "name" TomlNode.text?
           password := ← required node 1 "password" TomlNode.text?
           network := ← optional node 2 "network" TomlNode.text? standardNetwork }

/-- Reads where to listen. -/
def listen? (node : TomlNode) : Option ListenSettings := do
  return { port := (← required node 0 "port" (TomlNode.upTo? 65535)).toUInt16
           address := ← optional node 1 "address" TomlNode.text? "" }

/-- Reads what to log. -/
def log? (node : TomlNode) : Option LogSettings := do
  let standard := LogSettings.standard
  return { level := (← optional node 0 "verbose" (TomlNode.upTo? 255) standard.level.toNat).toUInt8
           tick := (← optional node 1 "tick_ms" (TomlNode.upTo? 0x7FFFFFFFFFFFFFFF)
             standard.tick.toNat).toUInt64 }

/-- Reads all settings from the table of a document. -/
def ofEntries? (entries : TomlEntries) : Option Settings := do
  let root := TomlNode.table .header entries
  return { identity := ← required root 0 "server" identity?
           listen := ← required root 1 "listen" listen?
           log := ← optional root 2 "logging" log? LogSettings.standard }

/-- Reads settings from the text of a document. -/
def parse (text : String) : Except SettingsError Settings :=
  match TomlDocument.parse? text with
  | none => .error .malformed
  | some entries =>
    match ofEntries? entries with
    | none => .error .unsuitable
    | some settings => .ok settings

/-- What the system says of bytes that are not text. -/
def notText : String := "stream did not contain valid UTF-8"

/-- Reads settings from what reading a file has given: its bytes, or the reason
why it could not be read. -/
def load (file : Except String (List UInt8)) : Except SettingsError Settings :=
  match file with
  | .error source => .error (.unreadable source)
  | .ok bytes =>
    match LossyUtf8.decode? bytes with
    | none => .error (.unreadable notText)
    | some text => parse text

end Settings

end RelayChat
