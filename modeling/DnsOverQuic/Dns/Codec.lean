import DnsOverQuic.Dns.Wire.Reading
import DnsOverQuic.Dns.Wire.Writing

/-!
# Codecs of messages

The gateway handles messages through a codec: a way to read them from octets
and to write them.  The wire format is one codec; what the gateway does with
events and failures does not depend on which codec it has.
-/

namespace DnsOverQuic.Dns

/-- A way to read and write messages. -/
structure Codec where
  decode : Octets → Option Message
  encode : Message → Option Octets

namespace Codec

/-- The wire format of messages. -/
def wire : Codec where
  decode octets := (Message.decode octets).toOption
  encode := Message.encode?

instance : Inhabited Codec := ⟨wire⟩

end Codec

end DnsOverQuic.Dns
