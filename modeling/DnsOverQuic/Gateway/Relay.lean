import DnsOverQuic.Exchange.Datagram
import DnsOverQuic.Gateway.Services

/-!
# Relaying a stream

The services of a gateway handle the streams of clients, and forward queries by
exchanges in datagrams.  The stream of a client delivers what the client sent
before it finished, and takes all that is written to it.
-/

namespace DnsOverQuic.Gateway

/-- The stream on which a client sent octets before it finished. -/
def ClientStream.ofOctets
    (octets : Octets) :
    ClientStream where
  delivery := .ok octets
  acceptance := .all

/-- The octets that an event writes to the stream. -/
def Event.written :
    Event → Octets
  | write octets => octets
  | _ => []

/-- The octets that are written to the stream, which its client reads up to the end. -/
def Transcript.written
    (transcript : Transcript) :
    Octets :=
  transcript.events.flatMap Event.written

/--
Relay a stream through sockets.  There is no transcript if the exchange with the
resolver does not end.
-/
def Services.relay
    {σ : Type}
    (services : Services)
    (sockets : Exchange.Sockets σ)
    (stream : ClientStream) :
    StateM σ (Option Transcript) :=
  let exchange := Exchange.perform sockets services.handler.codec services.timeout
  (services.handler.handleWith (fun resolver query => OptionT.mk (exchange resolver query))
    stream).run

end DnsOverQuic.Gateway
