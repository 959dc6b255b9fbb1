import DnsOverQuic.Protocol
import DnsOverQuic.Resolver

/-!
# Settings

The settings of the gateway in five sections.  The defaults are those of the
fields.
-/

namespace DnsOverQuic

open Text

/-- Where and how the gateway listens for connections. -/
structure ServerSettings where
  bindAddress : String := "0.0.0.0"
  portNumber : UInt16 := Protocol.defaultPortNumber
  withDrafts : Bool := false
deriving DecidableEq, Inhabited

/-- The files with the certificates and the key that are presented to clients. -/
structure IdentitySettings where
  certificateFile : Option String := none
  keyFile : Option String := none
deriving DecidableEq, Inhabited

/-- The resolver, and how many milliseconds to wait for it. -/
structure ResolverSettings where
  address : String := "1.1.1.1:53"
  timeout : Option UInt64 := none
deriving DecidableEq, Inhabited

/-- Whether and where the counters can be read. -/
structure MetricsSettings where
  enabled : Bool := false
  bindAddress : String := "127.0.0.1"
  portNumber : UInt16 := 9153
deriving DecidableEq, Inhabited

/-- What is logged, and whether as one object a line. -/
structure LoggingSettings where
  level : String := "info"
  json : Bool := false
deriving DecidableEq, Inhabited

/-- All settings. -/
structure Settings where
  server : ServerSettings := {}
  identity : IdentitySettings := {}
  resolver : ResolverSettings := {}
  metrics : MetricsSettings := {}
  logging : LoggingSettings := {}
deriving DecidableEq, Inhabited

/--
The text of a socket address with the given host.  A host with colons that is
not in brackets is put into brackets.
-/
def listenText
    (host : List Char)
    (number : UInt16) :
    List Char :=
  if ':' ∈ host ∧ host.head? ≠ some '[' then
    '[' :: host ++ "]:".toList ++ Decimal.numeral number.toNat
  else
    host ++ ':' :: Decimal.numeral number.toNat

namespace ServerSettings

/-- The text of the address to listen on. -/
def listenAddress
    (settings : ServerSettings) :
    List Char :=
  listenText settings.bindAddress.toList settings.portNumber

/-- The protocol identifiers to announce. -/
def announcement
    (settings : ServerSettings) :
    Protocol.Announcement :=
  .ofSwitch settings.withDrafts

end ServerSettings

namespace MetricsSettings

/-- The text of the address to serve the counters on. -/
def listenAddress
    (settings : MetricsSettings) :
    List Char :=
  listenText settings.bindAddress.toList settings.portNumber

end MetricsSettings

namespace IdentitySettings

/-- True if neither file is set, so that a certificate is generated. -/
def isSelfSigned
    (settings : IdentitySettings) :
    Bool :=
  settings.certificateFile.isNone && settings.keyFile.isNone

end IdentitySettings

namespace ResolverSettings

/-- The resolver that the settings name, or what is wrong with its text. -/
def resolver
    (settings : ResolverSettings) :
    Except String ResolverAddress :=
  ResolverAddress.parse settings.address

end ResolverSettings

namespace Settings

/-- The settings that apply where nothing is set. -/
def standard : Settings := {}

end Settings

end DnsOverQuic
