import DnsOverQuic.Settings.Basic
import DnsOverQuic.Text.Alphabet

/-!
# Validation of settings

Settings are valid if the gateway can be wired with them.  Of several faults
the first one is reported, in the order of the sections.
-/

namespace DnsOverQuic

open Text

/-- What is wrong with settings. -/
inductive Invalidity where
  | serverNumberZero
  | resolverMissing
  | resolverUnreadable (complaint : String)
  | timeoutZero
  | keyFileMissing
  | certificateFileMissing
  | metricsNumberZero
deriving DecidableEq, Inhabited

namespace Invalidity

/-- The words for the fault. -/
def text :
    Invalidity → String
  | serverNumberZero => "DoQ port cannot be 0"
  | resolverMissing => "No upstream resolver configured"
  | resolverUnreadable complaint => complaint
  | timeoutZero => "Upstream timeout cannot be 0"
  | keyFileMissing => "tls.cert_file is set but tls.key_file is missing"
  | certificateFileMissing => "tls.key_file is set but tls.cert_file is missing"
  | metricsNumberZero => "Metrics port cannot be 0"

/-- The message that reports the fault. -/
def message
    (invalidity : Invalidity) :
    String :=
  "Configuration validation error: " ++ invalidity.text

end Invalidity

namespace Settings

/-- The fault of the server section. -/
def serverFault?
    (settings : ServerSettings) :
    Option Invalidity :=
  if settings.portNumber = 0 then some .serverNumberZero else none

/-- The fault of the resolver section. -/
def resolverFault?
    (settings : ResolverSettings) :
    Option Invalidity :=
  if Alphabet.isBlankText settings.address.toList then
    some .resolverMissing
  else
    match settings.resolver with
    | .error complaint => some (.resolverUnreadable complaint)
    | .ok _ => if settings.timeout = some 0 then some .timeoutZero else none

/-- The fault of the identity section. -/
def identityFault?
    (settings : IdentitySettings) :
    Option Invalidity :=
  match settings.certificateFile, settings.keyFile with
  | some _, none => some .keyFileMissing
  | none, some _ => some .certificateFileMissing
  | _, _ => none

/-- The fault of the metrics section. -/
def metricsFault?
    (settings : MetricsSettings) :
    Option Invalidity :=
  if settings.enabled ∧ settings.portNumber = 0 then some .metricsNumberZero else none

/-- The first fault of the settings. -/
def fault?
    (settings : Settings) :
    Option Invalidity :=
  (serverFault? settings.server).or
    ((resolverFault? settings.resolver).or
      ((identityFault? settings.identity).or (metricsFault? settings.metrics)))

/-- Accept the settings, or report their first fault. -/
def validate
    (settings : Settings) :
    Except Invalidity Unit :=
  match settings.fault? with
  | none => .ok ()
  | some invalidity => .error invalidity

end Settings

end DnsOverQuic
