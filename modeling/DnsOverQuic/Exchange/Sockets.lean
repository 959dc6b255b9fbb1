import DnsOverQuic.Address.Socket

/-!
# Datagram sockets

The operations on datagram sockets that an exchange with a resolver uses.  An
operation answers from a state of the surroundings, which it may change; so
the same exchange runs against fixed answers, against a network of queues, or
under observation.
-/

namespace DnsOverQuic.Exchange

/-- What comes of waiting for a datagram. -/
inductive Reception where
  | datagram (octets : Octets)
  | fault (reason : String)
  | silence
deriving DecidableEq, Inhabited

/-- The socket operations, over a state of the surroundings. -/
structure Sockets (σ : Type) where
  lookup : List Char → UInt16 → StateM σ (Except String (List SocketAddress))
  bind : SocketAddress → StateM σ (Except String Nat)
  connect : Nat → SocketAddress → StateM σ (Except String Unit)
  send : Nat → Octets → StateM σ (Except String Nat)
  receive : Nat → StateM σ Reception

/-- An operation with its arguments. -/
inductive Operation where
  | lookup (host : List Char) (portNumber : UInt16)
  | bind (address : SocketAddress)
  | connect (socket : Nat) (address : SocketAddress)
  | send (socket : Nat) (octets : Octets)
  | receive (socket : Nat)
deriving DecidableEq, Inhabited

namespace Sockets

/-- Do an operation and record it. -/
def record
    {σ α : Type}
    (operation : Operation)
    (action : StateM σ α) :
    StateM (List Operation × σ) α :=
  fun (operations, state) =>
    let (answer, state) := action.run state
    (answer, (operations ++ [operation], state))

/-- The same operations, which also record what was asked of them. -/
def observed
    {σ : Type}
    (sockets : Sockets σ) :
    Sockets (List Operation × σ) where
  lookup host number := record (.lookup host number) (sockets.lookup host number)
  bind address := record (.bind address) (sockets.bind address)
  connect socket address := record (.connect socket address) (sockets.connect socket address)
  send socket octets := record (.send socket octets) (sockets.send socket octets)
  receive socket := record (.receive socket) (sockets.receive socket)

end Sockets

/-- What each operation of one exchange comes to. -/
structure Outcomes where
  lookup : Except String (List SocketAddress)
  bind : Except String Unit
  connect : Except String Unit
  send : Octets → Except String Nat
  receive : Reception

/-- The operations that come to given outcomes whenever they are done. -/
def Outcomes.sockets
    (outcomes : Outcomes) :
    Sockets Unit where
  lookup _ _ := pure outcomes.lookup
  bind _ := pure (outcomes.bind.map (fun _ => 0))
  connect _ _ := pure outcomes.connect
  send _ octets := pure (outcomes.send octets)
  receive _ := pure outcomes.receive

end DnsOverQuic.Exchange
