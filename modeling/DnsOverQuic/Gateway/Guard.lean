import DnsOverQuic.Dns.Message
import DnsOverQuic.Protocol

/-!
# Checks on arriving messages

What every message that arrives on a stream is checked for before it is
forwarded.
-/

namespace DnsOverQuic.Gateway.Guard

open Dns

/-- True for octets too short to ask something. -/
def isUndersized
    (octets : Octets) :
    Bool :=
  octets.length < Protocol.minMessageSize

/-- True for a message with the keepalive option, which no stream may carry. -/
def carriesKeepalive
    (message : Message) :
    Bool :=
  message.hasOption Protocol.keepaliveOptionCode

/-- The identifier of a message plays no part in the check of its options. -/
@[simp]
theorem carriesKeepalive_withId
    (message : Message)
    (id : UInt16) :
    carriesKeepalive (message.withId id) = carriesKeepalive message :=
  rfl

end DnsOverQuic.Gateway.Guard
