import DnsOverQuic.Exchange.Sockets

/-!
# A network of queues

A network in which one resolver listens.  Every socket has a receive queue of
its own, and the datagrams with which the resolver reacts go into the queue of
the socket that they react to.  Nothing is lost and nothing changes its order.
-/

namespace DnsOverQuic.Exchange

/-- How far the resolver can be reached. -/
inductive Reachability where
  | unreachable
  | closed
  | listening
deriving DecidableEq, Inhabited

/-- The names of a network in which no name stands for an address. -/
def noNames
    (_ : List Char)
    (_ : UInt16) :
    Except String (List SocketAddress) :=
  .error "no names are known"

/--
The resolver, the names of the network, what the resolver has received and the
receive queues of the sockets, in the order in which they were opened.  The
reaction to a datagram may depend on how many came before it.
-/
structure Network where
  reachability : Reachability
  reaction : Nat → Octets → List Octets
  names : List Char → UInt16 → Except String (List SocketAddress) := noNames
  received : List Octets := []
  queues : List (List Octets) := []

namespace Network

/-- What connecting reports when no route leads to the resolver. -/
def noRoute : String := "Network is unreachable (os error 101)"

/-- What receiving reports when nothing listens at the resolver's address. -/
def refused : String := "Connection refused (os error 111)"

/-- Open a socket with an empty queue. -/
def openQueue :
    StateM Network Nat :=
  fun network => (network.queues.length, { network with queues := network.queues ++ [[]] })

/-- Deliver a datagram to the resolver, and its reaction to the sending socket. -/
def deliver
    (socket : Nat)
    (octets : Octets) :
    StateM Network Unit :=
  modify (fun network =>
    if network.reachability = .listening then
      { network with
        received := network.received ++ [octets]
        queues := network.queues.modify socket
          (· ++ network.reaction network.received.length octets) }
    else
      network)

/-- Take the first datagram from the queue of a socket. -/
def takeFirst
    (socket : Nat) :
    StateM Network Reception :=
  fun network =>
    if network.reachability = .closed then
      (.fault refused, network)
    else
      match network.queues[socket]? with
      | some (datagram :: rest) =>
          (.datagram datagram, { network with queues := network.queues.set socket rest })
      | _ => (.silence, network)

/-- The socket operations in the network. -/
def sockets : Sockets Network where
  lookup host number := do return (← get).names host number
  bind _ := do return .ok (← openQueue)
  connect _ _ := do
    if (← get).reachability = .unreachable then
      return .error noRoute
    else
      return .ok ()
  send socket octets := do
    deliver socket octets
    return .ok octets.length
  receive socket := takeFirst socket

end Network

end DnsOverQuic.Exchange
