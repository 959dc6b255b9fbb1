import DnsOverQuic.Octets

/-!
# The wire contract

Every stream of a DNS-over-QUIC connection carries one message in each
direction, ended by the end of the stream; there is no length field.  Messages
on a stream carry the transaction identifier zero.  This module fixes the
sizes, the application protocol identifiers and the error codes that both ends
agree on.
-/

namespace DnsOverQuic.Protocol

/-- The shortest message that can ask something: a header and a root question. -/
def minMessageSize : Nat := 17

/-- The longest message that a stream may deliver. -/
def maxMessageSize : Nat := 65535

/-- The octets that are read of one datagram from the resolver. -/
def maxDatagramSize : Nat := 4096

/-- Milliseconds without traffic after which a connection ends. -/
def idleTimeout : Nat := 5000

/-- The socket number of a server whose address names none. -/
def defaultPortNumber : UInt16 := 784

/-- The option code of the TCP keepalive option, which no stream may carry. -/
def keepaliveOptionCode : UInt16 := 11

/-- The datagram size that a client announces to take. -/
def announcedDatagramSize : UInt16 := 4096

/-- Which application protocol identifiers an endpoint announces. -/
inductive Announcement where
  | standard
  | withDrafts
deriving DecidableEq, Inhabited

namespace Announcement

/-- The announcement that a compatibility switch selects. -/
def ofSwitch :
    Bool → Announcement
  | false => standard
  | true => withDrafts

/-- The identifiers in order of preference. -/
def identifiers :
    Announcement → List String
  | standard => ["doq"]
  | withDrafts => ["doq", "doq-i00", "doq-i02", "doq-i03", "dq"]

/-- The identifiers as the octet strings that the handshake carries. -/
def octets
    (announcement : Announcement) :
    List Octets :=
  announcement.identifiers.map (fun identifier => identifier.toUTF8.toList)

end Announcement

/-- Why a connection is closed. -/
inductive CloseCode where
  | noError
  | internalError
deriving DecidableEq, Inhabited

namespace CloseCode

/-- The number that stands for the reason on the wire. -/
def number :
    CloseCode → Nat
  | noError => 0
  | internalError => 1

end CloseCode

end DnsOverQuic.Protocol
