import DnsOverQuic.Files
import DnsOverQuic.Gateway.Handler
import DnsOverQuic.Identity.Loading
import DnsOverQuic.Settings.Basic

/-!
# Wiring and starting the gateway

The services of a gateway are wired from its settings, and then it is made
ready to listen.  The steps have a fixed order, and the first that fails is
reported.
-/

namespace DnsOverQuic.Gateway

/-- What the streams of a gateway share. -/
structure Services where
  handler : Handler
  timeout : Option UInt64
  counters : Counters := .zero
deriving Inhabited

/-- What makes a gateway ready to listen. -/
structure Listener where
  address : SocketAddress
  identity : Identity.Presented
  identifiers : List String
deriving Inhabited

/-- Why a gateway does not start. -/
inductive StartFault where
  | resolver (complaint : String)
  | listenAddress (text : String)
  | identity (failure : Failure)
deriving DecidableEq, Inhabited

/-- The message on a resolver that cannot be used. -/
def resolverMessage
    (complaint : String) :
    String :=
  "Invalid upstream address: " ++ complaint

namespace StartFault

/-- The messages that report the fault, from the step down to its cause. -/
def messages :
    StartFault → List String
  | resolver complaint => [resolverMessage complaint]
  | listenAddress text => ["Invalid listen address " ++ text, "invalid socket address syntax"]
  | identity failure => [failure.message]

end StartFault

namespace Services

/-- Wire the services for which settings ask. -/
def wire
    (settings : Settings) :
    Except StartFault Services :=
  match settings.resolver.resolver with
  | .ok resolver =>
      .ok { handler := { resolver := resolver }, timeout := settings.resolver.timeout }
  | .error complaint => .error (.resolver complaint)

end Services

namespace Listener

/-- Report a failure to load or use an identity. -/
def withIdentity
    {α : Type}
    (loaded : Except Failure α) :
    Except StartFault α :=
  loaded.mapError .identity

/-- Make ready to listen as settings ask. -/
def prepare
    (files : Files)
    (settings : Settings) :
    Except StartFault Listener :=
  match SocketAddress.read? settings.server.listenAddress with
  | none => .error (.listenAddress (String.ofList settings.server.listenAddress))
  | some address => do
      let identity ← withIdentity (Identity.load files settings.identity)
      let identifiers ← withIdentity (Identity.announce settings.server.announcement identity)
      return ⟨address, identity, identifiers⟩

end Listener

/-- Wire the services and make ready to listen. -/
def start
    (files : Files)
    (settings : Settings) :
    Except StartFault (Services × Listener) := do
  let services ← Services.wire settings
  let listener ← Listener.prepare files settings
  return (services, listener)

end DnsOverQuic.Gateway
