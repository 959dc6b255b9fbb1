import DnsOverQuic.Files
import DnsOverQuic.Settings.Reading
import DnsOverQuic.Settings.Validation

/-!
# Loading settings

The settings of a run come in layers: the defaults, under the settings of one
file, under what the command line overrides.  The file is the one that is
named, or else the first standard one that exists.  A file that is there but
cannot be read or understood is a fault; no other file is tried.
-/

namespace DnsOverQuic

/-- What the command line overrides. -/
structure Overrides where
  bindAddress : Option String := none
  portNumber : Option UInt16 := none
  withDrafts : Bool := false
  certificateFile : Option String := none
  keyFile : Option String := none
  resolver : Option String := none
  metricsNumber : Option UInt16 := none
  logLevel : Option String := none
deriving DecidableEq, Inhabited

/-- Why there are no settings. -/
inductive SettingsFault where
  | unreadable (path : String) (fault : FileFault)
  | malformed
  | invalid (invalidity : Invalidity)
deriving DecidableEq, Inhabited

namespace SettingsFault

/-- The message that reports the fault. -/
def message :
    SettingsFault → String
  | unreadable path fault => "Failed to read config file " ++ path ++ ": " ++ fault.text
  | malformed => "Failed to parse config"
  | invalid invalidity => invalidity.message

end SettingsFault

namespace Settings

/-- The settings with the overridden fields replaced. -/
def overriddenBy
    (settings : Settings)
    (overrides : Overrides) :
    Settings where
  server := {
    bindAddress := overrides.bindAddress.getD settings.server.bindAddress
    portNumber := overrides.portNumber.getD settings.server.portNumber
    withDrafts := overrides.withDrafts || settings.server.withDrafts }
  identity := {
    certificateFile := overrides.certificateFile.or settings.identity.certificateFile
    keyFile := overrides.keyFile.or settings.identity.keyFile }
  resolver := {
    address := overrides.resolver.getD settings.resolver.address
    timeout := settings.resolver.timeout }
  metrics := {
    enabled := overrides.metricsNumber.isSome || settings.metrics.enabled
    bindAddress := settings.metrics.bindAddress
    portNumber := overrides.metricsNumber.getD settings.metrics.portNumber }
  logging := {
    level := overrides.logLevel.getD settings.logging.level
    json := settings.logging.json }

/-- The paths at which settings are looked for if none is named. -/
def standardPaths : List String :=
  ["doq-gateway.toml", "/etc/doq-gateway/config.toml"]

/-- The settings in a document. -/
def ofDocument
    (document : List Char) :
    Except SettingsFault Settings :=
  match read? document with
  | some settings => .ok settings
  | none => .error .malformed

/-- The settings in a file. -/
def ofFile
    (files : Files)
    (path : String) :
    Except SettingsFault Settings :=
  match files.readText path with
  | .ok document => ofDocument document
  | .error fault => .error (.unreadable path fault)

/-- The path of the file with the settings, if there is one. -/
def sourcePath?
    (files : Files)
    (path : Option String) :
    Option String :=
  path.or (standardPaths.find? files.contains)

/-- Load settings from the file that is named or found, under the overrides. -/
def load
    (files : Files)
    (path : Option String)
    (overrides : Overrides) :
    Except SettingsFault Settings :=
  let base :=
    match sourcePath? files path with
    | some path => ofFile files path
    | none => .ok standard
  base.map (·.overriddenBy overrides)

/-- A step of loading settings that failed, and why. -/
inductive LoadFault where
  | loading (fault : SettingsFault)
  | validation (invalidity : Invalidity)
deriving DecidableEq, Inhabited

namespace LoadFault

/-- The messages that report the fault, from the step down to its cause. -/
def messages :
    LoadFault → List String
  | loading fault => ["Failed to load configuration", fault.message]
  | validation invalidity => ["Invalid configuration", invalidity.message]

end LoadFault

/-- Load settings and validate them. -/
def loadValid
    (files : Files)
    (path : Option String)
    (overrides : Overrides) :
    Except LoadFault Settings :=
  match load files path overrides with
  | .error fault => .error (.loading fault)
  | .ok settings =>
      match settings.fault? with
      | some invalidity => .error (.validation invalidity)
      | none => .ok settings

end Settings

end DnsOverQuic
