import DnsOverQuic.Client.Destination
import DnsOverQuic.Client.ServerName
import DnsOverQuic.Dns.Codec
import DnsOverQuic.Gateway.Stream
import DnsOverQuic.Identity.Loading

/-!
# Connections of a client

A client finds its server, prepares what it announces and whom it trusts, and
then connects.  Each query goes out on a fresh stream of the connection, and
what the server writes before it finishes the stream is the response.
-/

namespace DnsOverQuic.Client

open Dns

/-- How a client connects. -/
structure ConnectionSettings where
  server : String
  serverName : Option String := none
  trustsAny : Bool := false
  announcement : Protocol.Announcement := .standard
  roots : List Octets := []
deriving Inhabited

/-- What a client asks of a server when it connects. -/
structure Greeting where
  address : SocketAddress
  name : List Char
  identifiers : List String
deriving Inhabited

/-- The greeting for which settings ask. -/
def greeting
    (find : Lookup)
    (settings : ConnectionSettings) :
    Except Failure Greeting := do
  let (address, name) ← resolveServer find settings.server
  let identifiers ←
    Identity.announceTrusting settings.announcement settings.trustsAny settings.roots
  let name := (settings.serverName.map String.toList).getD name
  if address.portNumber = 0 then
    throw (.connect settings.server "invalid remote address")
  else if !ServerName.isUsable name then
    throw (.connect settings.server "invalid server name")
  else
    return ⟨address, name, identifiers⟩

/-- Connect to the server; `shake` is what comes of the handshake. -/
def connect
    (find : Lookup)
    (shake : Greeting → Except String Unit)
    (settings : ConnectionSettings) :
    Except Failure Greeting := do
  let greeting ← greeting find settings
  match shake greeting with
  | .ok () => return greeting
  | .error reason => throw (.connect settings.server reason)

/-- The response that the octets of a stream are. -/
def understand
    (codec : Codec)
    (octets : Octets) :
    Except Failure Message :=
  match codec.decode octets with
  | some response => .ok response
  | none => .error (.invalidMessage "not a message")

/--
Send a query on a fresh stream and read the response.  The server answers the
octets that the stream delivers to it.
-/
def ask
    (codec : Codec)
    (answer : Octets → Octets)
    (query : Message) :
    Except Failure Message :=
  match codec.encode query with
  | none => .error (.unencodable "message too long")
  | some octets =>
      let response := answer octets
      if Protocol.maxMessageSize < response.length then
        .error (.streamRead "stream too long")
      else
        understand codec response

end DnsOverQuic.Client
