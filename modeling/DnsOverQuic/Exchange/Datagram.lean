import DnsOverQuic.Dns.Codec
import DnsOverQuic.Exchange.Sockets
import DnsOverQuic.Failure
import DnsOverQuic.Protocol
import DnsOverQuic.Resolver

/-!
# Exchanging a message in datagrams

An exchange opens a fresh socket, sends the query in one datagram and takes
the first datagram that comes back, of which it reads a limited number of
octets.  There is no second attempt.  Without a timeout an exchange with a
silent resolver does not end.
-/

namespace DnsOverQuic.Exchange

open Dns

/-- An action on the surroundings that may fail. -/
abbrev Action (σ α : Type) :=
  ExceptT Failure (StateM σ) α

/-- Report the fault of a socket operation as a failure. -/
def orFail
    {σ α : Type}
    (failure : String → Failure)
    (operation : StateM σ (Except String α)) :
    Action σ α :=
  ExceptT.mk do
    match ← operation with
    | .ok answer => return .ok answer
    | .error reason => return .error (failure reason)

/-- The text that failures name a resolver by. -/
def serverText
    (resolver : ResolverAddress) :
    String :=
  String.ofList resolver.text

/-- The address of the resolver: its own, or the first that its name stands for. -/
def locate
    {σ : Type}
    (sockets : Sockets σ)
    (resolver : ResolverAddress) :
    Action σ SocketAddress :=
  match resolver with
  | .literal address => pure address
  | .named host number => do
      let failed := Failure.resolverConnect (serverText resolver)
      match ← orFail (fun reason => failed ("lookup failed: " ++ reason))
          (sockets.lookup host number) with
      | address :: _ => pure address
      | [] => throw (failed "lookup returned no addresses")

/-- A fresh socket that is connected to an address. -/
def openSocket
    {σ : Type}
    (sockets : Sockets σ)
    (server : String)
    (address : SocketAddress) :
    Action σ Nat := do
  let failed := Failure.resolverConnect server
  let socket ← orFail (fun reason => failed ("bind failed: " ++ reason))
    (sockets.bind address.unspecifiedOfFamily)
  orFail failed (sockets.connect socket address)
  return socket

/-- Send octets in one datagram. -/
def submit
    {σ : Type}
    (sockets : Sockets σ)
    (server : String)
    (socket : Nat)
    (octets : Octets) :
    Action σ Unit := do
  let failed := Failure.resolverWrite server
  let sent ← orFail failed (sockets.send socket octets)
  if sent ≠ octets.length then
    throw (failed
      ("sent " ++ toString sent ++ " of " ++ toString octets.length ++ " bytes"))

/-- Send a query to a resolver; the socket on which the answer is expected. -/
def ask
    {σ : Type}
    (sockets : Sockets σ)
    (codec : Codec)
    (resolver : ResolverAddress)
    (query : Message) :
    Action σ Nat :=
  match codec.encode query with
  | none => throw (.unencodable "message too long")
  | some octets => do
      let address ← locate sockets resolver
      let socket ← openSocket sockets (serverText resolver) address
      submit sockets (serverText resolver) socket octets
      return socket

/-- Take a message from the first octets of a datagram. -/
def interpret
    (codec : Codec)
    (server : String)
    (datagram : Octets) :
    Except Failure Message :=
  match codec.decode (datagram.take Protocol.maxDatagramSize) with
  | some response => .ok response
  | none => .error (.resolverReply server "not a message")

/--
What comes of waiting for the answer.  There is no result when no answer comes
and waiting has no timeout.
-/
def conclude
    (codec : Codec)
    (timeout : Option UInt64)
    (server : String) :
    Reception → Option (Except Failure Message)
  | .datagram octets => some (interpret codec server octets)
  | .fault reason => some (.error (.resolverRead server reason))
  | .silence => timeout.map (fun _ => .error (.resolverTimeout server))

/-- Exchange a query for a response.  There is no result if waiting never ends. -/
def perform
    {σ : Type}
    (sockets : Sockets σ)
    (codec : Codec)
    (timeout : Option UInt64)
    (resolver : ResolverAddress)
    (query : Message) :
    StateM σ (Option (Except Failure Message)) := do
  match ← (ask sockets codec resolver query).run with
  | .error failure => return some (.error failure)
  | .ok socket =>
      return conclude codec timeout (serverText resolver) (← sockets.receive socket)

/-- Exchange one query after another. -/
def performAll
    {σ : Type}
    (sockets : Sockets σ)
    (codec : Codec)
    (timeout : Option UInt64)
    (resolver : ResolverAddress)
    (queries : List Message) :
    StateM σ (List (Option (Except Failure Message))) :=
  queries.mapM (perform sockets codec timeout resolver)

end DnsOverQuic.Exchange
