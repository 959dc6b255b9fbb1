import DnsOverQuic.Failure
import DnsOverQuic.Protocol
import DnsOverQuic.Resolver

/-!
# The server of a client

A server is named by an IP address, by a socket address, or by a host name
with or without a number; without one it is the default number of the
protocol.  The certificate of the server must be for the name, or for the
address where there is no name.
-/

namespace DnsOverQuic.Client

/-- Where a client connects: to an address, or to what a name stands for. -/
inductive Destination where
  | fixed (address : SocketAddress)
  | named (host : List Char) (portNumber : UInt16)
deriving DecidableEq, Inhabited

/-- A way to find the addresses that a name stands for. -/
abbrev Lookup :=
  List Char → UInt16 → Except String (List SocketAddress)

/-- Finding the addresses that a name stands for as an action on the surroundings. -/
abbrev LookupAction (m : Type → Type) :=
  List Char → UInt16 → m (Except String (List SocketAddress))

namespace Destination

/-- The destination of a resolver address. -/
def ofResolver :
    ResolverAddress → Destination
  | .literal address => fixed address
  | .named host number => named host number

/-- The destination that a text names. -/
def ofText
    (server : String) :
    Except Failure Destination :=
  match IPAddress.read? server.toList with
  | some ip => .ok (fixed (.ofIP ip Protocol.defaultPortNumber))
  | none =>
      if ':' ∈ server.toList then
        match ResolverAddress.parse server with
        | .ok resolver => .ok (.ofResolver resolver)
        | .error complaint => .error (.connect server complaint)
      else
        .ok (named server.toList Protocol.defaultPortNumber)

/--
The first address that was found for a host, with the name that the certificate must be
for, which is the host.
-/
def firstFound
    (server : String)
    (host : List Char) :
    Except String (List SocketAddress) → Except Failure (SocketAddress × List Char)
  | .ok (address :: _) => .ok (address, host)
  | .ok [] => .error (.connect server "lookup returned no addresses")
  | .error reason => .error (.connect server ("lookup failed: " ++ reason))

/-- The address of a destination with the name that the certificate must be for. -/
def locate
    {m : Type → Type}
    [Monad m]
    (find : LookupAction m)
    (server : String) :
    Destination → m (Except Failure (SocketAddress × List Char))
  | fixed address => return .ok (address, address.ip.text)
  | named host number => return firstFound server host (← find host number)

end Destination

/-- Find the address that a text names, with the name that the certificate must be for. -/
def findServer
    {m : Type → Type}
    [Monad m]
    (find : LookupAction m)
    (server : String) :
    m (Except Failure (SocketAddress × List Char)) :=
  match Destination.ofText server with
  | .ok destination => destination.locate find server
  | .error failure => return .error failure

/-- The address that a text names, with the name that the certificate must be for. -/
def resolveServer
    (find : Lookup)
    (server : String) :
    Except Failure (SocketAddress × List Char) :=
  Id.run (findServer (fun host number => pure (find host number)) server)

end DnsOverQuic.Client
