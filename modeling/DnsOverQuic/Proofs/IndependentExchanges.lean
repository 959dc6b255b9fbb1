import DnsOverQuic.Exchange.Network
import DnsOverQuic.Proofs.ExchangeCourse
import DnsOverQuic.Proofs.MessageHeader

/-!
# Exchanges do not influence each other

Queries are exchanged one after another with a resolver that reacts to each
datagram by any datagrams.  Every exchange opens a socket of its own, and what
the resolver sends back goes into the queue of that socket.  So an exchange
takes the first datagram of the reaction to its own query or times out, and
what it leaves in its queue is never read.

The invariant of the induction over the queries is the state of the network
after each of them: one more datagram received, and one more queue with the rest
of the reaction.
-/

namespace DnsOverQuic.Exchange

open Dns

/-! ## One exchange -/

theorem run_orFail_of_ok
    {σ α : Type}
    {operation : StateM σ (Except String α)}
    {answer : α}
    {before after : σ}
    (ran : operation.run before = (.ok answer, after))
    (failure : String → Failure) :
    (orFail failure operation).run.run before = (.ok answer, after) := by
  rw [orFail, ExceptT.run_mk, StateT.run_bind, ran]
  rfl

theorem run_performAll_cons
    {σ : Type}
    {sockets : Sockets σ}
    {codec : Codec}
    {timeout : Option UInt64}
    {resolver : ResolverAddress}
    {query : Message}
    {queries : List Message}
    {result : Option (Except Failure Message)}
    {results : List (Option (Except Failure Message))}
    {before between after : σ}
    (first : (perform sockets codec timeout resolver query).run before = (result, between))
    (others : (performAll sockets codec timeout resolver queries).run between = (results, after)) :
    (performAll sockets codec timeout resolver (query :: queries)).run before =
      (result :: results, after) := by
  rw [performAll, List.mapM_cons, StateT.run_bind, first]
  change (performAll sockets codec timeout resolver queries >>= fun results =>
    pure (result :: results)).run between = _
  rw [StateT.run_bind, others]
  rfl

/-- What comes of a query by the datagrams with which the resolver reacts to it. -/
def outcomeOf
    (codec : Codec)
    (server : String) :
    List Octets → Except Failure Message
  | [] => .error (.resolverTimeout server)
  | datagram :: _ => interpret codec server datagram

/-- The octets of a reaction that are ever looked at. -/
def front
    (reaction : List Octets) :
    Option Octets :=
  reaction.head?.map (·.take Protocol.maxDatagramSize)

theorem outcomeOf_of_decoded
    {codec : Codec}
    {datagram : Octets}
    {response : Message}
    (decoded : codec.decode (datagram.take Protocol.maxDatagramSize) = some response)
    (server : String)
    (later : List Octets) :
    outcomeOf codec server (datagram :: later) = .ok response := by
  simp only [outcomeOf, interpret, decoded]

theorem outcomeOf_of_undecodable
    {codec : Codec}
    {datagram : Octets}
    (undecodable : codec.decode (datagram.take Protocol.maxDatagramSize) = none)
    (server : String)
    (later : List Octets) :
    outcomeOf codec server (datagram :: later) =
      .error (.resolverReply server "not a message") := by
  simp only [outcomeOf, interpret, undecodable]

/-- Reactions with the same front come to the same. -/
theorem outcomeOf_eq_of_front
    {reaction reaction' : List Octets}
    (same : front reaction = front reaction')
    (codec : Codec)
    (server : String) :
    outcomeOf codec server reaction = outcomeOf codec server reaction' := by
  cases reaction with
  | nil =>
      cases reaction' with
      | nil => rfl
      | cons datagram' later' => cases same
  | cons datagram later =>
      cases reaction' with
      | nil => cases same
      | cons datagram' later' =>
          have taken : datagram.take Protocol.maxDatagramSize =
              datagram'.take Protocol.maxDatagramSize :=
            Option.some.inj same
          simp only [outcomeOf, interpret, taken]

namespace Network

/-- The address at which the resolver is asked. -/
inductive Locates
    (network : Network) :
    ResolverAddress → SocketAddress → Prop where
  | literal
      (address : SocketAddress) :
      Locates network (.literal address) address
  | first
      {host : List Char}
      {number : UInt16}
      {address : SocketAddress}
      {others : List SocketAddress}
      (found : network.names host number = .ok (address :: others)) :
      Locates network (.named host number) address

/-- The resolver listens, and its address can be found. -/
structure Reaches
    (network : Network)
    (resolver : ResolverAddress) : Prop where
  listening : network.reachability = .listening
  located : ∃ address, network.Locates resolver address

variable
    {network : Network}
    {codec : Codec}
    {resolver : ResolverAddress}
    {query : Message}

/-- Neither what was received nor what stands in queues tells where the resolver is. -/
theorem Reaches.of_same
    {network' : Network}
    (reached : network.Reaches resolver)
    (reachability : network'.reachability = network.reachability)
    (names : network'.names = network.names) :
    network'.Reaches resolver := by
  rcases reached with ⟨listening, address, located⟩
  refine ⟨reachability.trans listening, address, ?_⟩
  cases located with
  | literal => exact .literal address
  | first found => exact .first (names ▸ found)

theorem run_locate
    {address : SocketAddress}
    (located : network.Locates resolver address) :
    (locate sockets resolver).run.run network = (.ok address, network) := by
  cases located with
  | literal => rfl
  | @first host number address others found =>
      have answered : (sockets.lookup host number).run network =
          (.ok (address :: others), network) :=
        congrArg (·, network) found
      exact run_bind_of_ok (run_orFail_of_ok answered _)

/-- Connecting succeeds, and changes nothing. -/
theorem run_connect
    (listening : network.reachability = .listening)
    (socket : Nat)
    (address : SocketAddress) :
    (sockets.connect socket address).run network = (.ok (), network) := by
  rcases network with ⟨reachability, reaction, names, received, queues⟩
  cases listening
  rfl

/-- The network with one more socket. -/
def opened
    (network : Network) :
    Network :=
  { network with queues := network.queues ++ [[]] }

/-- The network after a datagram was sent from one more socket, with the queue of that socket. -/
def exchanged
    (network : Network)
    (octets : Octets)
    (queue : List Octets) :
    Network :=
  { network with
    received := network.received ++ [octets]
    queues := network.queues ++ [queue] }

theorem run_openSocket
    (listening : network.reachability = .listening)
    (server : String)
    (address : SocketAddress) :
    (openSocket sockets server address).run.run network =
      (.ok network.queues.length, network.opened) := by
  have bound : (sockets.bind address.unspecifiedOfFamily).run network =
      (.ok network.queues.length, network.opened) :=
    rfl
  have listening' : network.opened.reachability = .listening := listening
  refine (run_bind_of_ok (run_orFail_of_ok bound _)).trans ?_
  exact run_bind_of_ok (run_orFail_of_ok (run_connect listening' _ address) _)

/-- The resolver receives a datagram, and its reaction goes to the socket that sent it. -/
theorem run_deliver
    (listening : network.reachability = .listening)
    (octets : Octets) :
    (deliver network.queues.length octets).run network.opened =
      ((), network.exchanged octets (network.reaction network.received.length octets)) := by
  rcases network with ⟨reachability, reaction, names, received, queues⟩
  cases listening
  have filled : (queues ++ [[]]).modify queues.length (· ++ reaction received.length octets) =
      queues ++ [reaction received.length octets] := by
    rw [List.modify_eq_set, List.getElem?_concat_length,
      List.set_append_right _ _ (Nat.le_refl _), Nat.sub_self]
    rfl
  exact congrArg
    (fun queues => ((), Network.mk .listening reaction names (received ++ [octets]) queues)) filled

theorem run_submit
    (listening : network.reachability = .listening)
    (server : String)
    (octets : Octets) :
    (submit sockets server network.queues.length octets).run.run network.opened =
      (.ok (), network.exchanged octets (network.reaction network.received.length octets)) := by
  have sent : (sockets.send network.queues.length octets).run network.opened =
      (.ok octets.length,
        network.exchanged octets (network.reaction network.received.length octets)) := by
    rw [sockets, StateT.run_bind, run_deliver listening]
    rfl
  refine (run_bind_of_ok (run_orFail_of_ok sent _)).trans ?_
  rw [if_neg (not_not_intro rfl)]
  rfl

/-- What a socket receives by its queue. -/
def receptionOf :
    List Octets → Reception
  | [] => .silence
  | datagram :: _ => .datagram datagram

/-- The first datagram of a queue is taken, and the others stay in it. -/
theorem run_receive
    (listening : network.reachability = .listening)
    (octets : Octets)
    (queue : List Octets) :
    (sockets.receive network.queues.length).run (network.exchanged octets queue) =
      (receptionOf queue, network.exchanged octets queue.tail) := by
  rcases network with ⟨reachability, reaction, names, received, queues⟩
  cases listening
  have found : (queues ++ [queue])[queues.length]? = some queue := List.getElem?_concat_length
  cases queue with
  | nil =>
      simp only [sockets, takeFirst, exchanged, StateT.run, found]
      rfl
  | cons datagram later =>
      have taken : (queues ++ [datagram :: later]).set queues.length later = queues ++ [later] := by
        rw [List.set_append_right _ _ (Nat.le_refl _), Nat.sub_self, List.set_cons_zero]
      simp only [sockets, takeFirst, exchanged, StateT.run, found, taken]
      rfl

theorem conclude_receptionOf
    (codec : Codec)
    (timeout : UInt64)
    (server : String)
    (queue : List Octets) :
    conclude codec (some timeout) server (receptionOf queue) =
      some (outcomeOf codec server queue) := by
  cases queue with
  | nil => rfl
  | cons datagram later => rfl

/-- What comes of a query in the network as it is. -/
def replyTo
    (network : Network)
    (codec : Codec)
    (server : String)
    (query : Message) :
    Except Failure Message :=
  match codec.encode query with
  | none => .error (.unencodable "message too long")
  | some octets =>
      outcomeOf codec server (network.reaction network.received.length octets)

theorem replyTo_of_unencodable
    (network : Network)
    (server : String)
    (unencodable : codec.encode query = none) :
    network.replyTo codec server query = .error (.unencodable "message too long") := by
  rw [replyTo, unencodable]

theorem replyTo_of_encoded
    (network : Network)
    {server : String}
    {octets : Octets}
    (encoded : codec.encode query = some octets) :
    network.replyTo codec server query =
      outcomeOf codec server (network.reaction network.received.length octets) := by
  rw [replyTo, encoded]

/-- The network after a query. -/
def afterQuery
    (codec : Codec)
    (network : Network)
    (query : Message) :
    Network :=
  match codec.encode query with
  | none => network
  | some octets =>
      network.exchanged octets (network.reaction network.received.length octets).tail

/-- One exchange takes the network to the next, and comes to the reply to its query. -/
theorem run_perform
    (reached : network.Reaches resolver)
    (codec : Codec)
    (timeout : UInt64)
    (query : Message) :
    (perform sockets codec (some timeout) resolver query).run network =
      (some (network.replyTo codec (serverText resolver) query),
        network.afterQuery codec query) := by
  rcases reached with ⟨listening, address, located⟩
  cases encoded : codec.encode query with
  | none =>
      have asked : (ask sockets codec resolver query).run.run network =
          (.error (.unencodable "message too long"), network) := by
        simp only [ask, encoded]
        rfl
      rw [run_perform_of_error _ asked, replyTo, afterQuery, encoded]
  | some octets =>
      have asked : (ask sockets codec resolver query).run.run network =
          (.ok network.queues.length,
            network.exchanged octets (network.reaction network.received.length octets)) := by
        simp only [ask, encoded]
        refine (run_bind_of_ok (run_locate located)).trans ?_
        refine (run_bind_of_ok (run_openSocket listening _ address)).trans ?_
        exact run_bind_of_ok (run_submit listening _ octets)
      rw [run_perform_of_ok _ asked, run_receive listening, replyTo, afterQuery, encoded]
      simp only [conclude_receptionOf]

/-! ## Exchanges one after another -/

section AfterQuery

variable
    (codec : Codec)
    (network : Network)
    (query : Message)

theorem received_afterQuery :
    (network.afterQuery codec query).received =
      network.received ++ (codec.encode query).toList := by
  unfold afterQuery
  cases codec.encode query with
  | none => exact (List.append_nil _).symm
  | some octets => rfl

@[simp]
theorem reaction_afterQuery :
    (network.afterQuery codec query).reaction = network.reaction := by
  unfold afterQuery
  cases codec.encode query <;> rfl

theorem Reaches.afterQuery
    {network : Network}
    (reached : network.Reaches resolver) :
    (network.afterQuery codec query).Reaches resolver := by
  apply reached.of_same
  · unfold Network.afterQuery
    cases codec.encode query <;> rfl
  · unfold Network.afterQuery
    cases codec.encode query <;> rfl

end AfterQuery

/-- The network after queries in order. -/
def afterQueries
    (codec : Codec)
    (network : Network)
    (queries : List Message) :
    Network :=
  queries.foldl (afterQuery codec) network

theorem received_afterQueries
    (codec : Codec)
    (network : Network)
    (queries : List Message) :
    (network.afterQueries codec queries).received =
      network.received ++ queries.filterMap codec.encode := by
  induction queries generalizing network with
  | nil => exact (List.append_nil _).symm
  | cons query queries ih =>
      change ((network.afterQuery codec query).afterQueries codec queries).received = _
      rw [ih, received_afterQuery, List.append_assoc]
      cases encoded : codec.encode query with
      | none => rw [List.filterMap_cons_none encoded, Option.toList_none, List.nil_append]
      | some octets => rw [List.filterMap_cons_some encoded, Option.toList_some,
          List.singleton_append]

@[simp]
theorem reaction_afterQueries
    (codec : Codec)
    (network : Network)
    (queries : List Message) :
    (network.afterQueries codec queries).reaction = network.reaction := by
  induction queries generalizing network with
  | nil => rfl
  | cons query queries ih => exact (ih _).trans (network.reaction_afterQuery codec query)

/-- What comes of queries in order. -/
def replies
    (codec : Codec)
    (server : String) :
    Network → List Message → List (Except Failure Message)
  | _, [] => []
  | network, query :: queries =>
      network.replyTo codec server query ::
        replies codec server (network.afterQuery codec query) queries

/-- Exchanges in order come to the replies to their queries. -/
theorem run_performAll
    (reached : network.Reaches resolver)
    (codec : Codec)
    (timeout : UInt64)
    (queries : List Message) :
    (performAll sockets codec (some timeout) resolver queries).run network =
      ((replies codec (serverText resolver) network queries).map some,
        network.afterQueries codec queries) := by
  induction queries generalizing network with
  | nil => rfl
  | cons query queries ih =>
      exact run_performAll_cons (run_perform reached codec timeout query)
        (ih (reached.afterQuery codec query))

theorem length_replies
    (codec : Codec)
    (server : String)
    (network : Network)
    (queries : List Message) :
    (replies codec server network queries).length = queries.length := by
  induction queries generalizing network with
  | nil => rfl
  | cons query queries ih => exact congrArg (· + 1) (ih _)

/-- Each reply is the reply in the network that the queries before it have left. -/
theorem getElem?_replies
    (codec : Codec)
    (server : String)
    (network : Network)
    (queries : List Message)
    (index : Nat) :
    (replies codec server network queries)[index]? =
      queries[index]?.map
        ((network.afterQueries codec (queries.take index)).replyTo codec server) := by
  induction queries generalizing network index with
  | nil => rfl
  | cons query queries ih =>
      cases index with
      | zero => rfl
      | succ index => exact ih (network.afterQuery codec query) index

/-- The reply to a query depends on nothing but the front of the reaction to it. -/
theorem replyTo_eq_of_front
    {network network' : Network}
    {query : Message}
    (fronts : ∀ octets, codec.encode query = some octets →
      front (network.reaction network.received.length octets) =
        front (network'.reaction network'.received.length octets))
    (server : String) :
    network.replyTo codec server query = network'.replyTo codec server query := by
  unfold replyTo
  cases encoded : codec.encode query with
  | none => rfl
  | some octets => exact outcomeOf_eq_of_front (fronts octets encoded) codec server

theorem replies_eq_of_front
    {network network' : Network}
    (received : network.received = network'.received)
    (fronts : ∀ count octets,
      front (network.reaction count octets) = front (network'.reaction count octets))
    (codec : Codec)
    (server : String)
    (queries : List Message) :
    replies codec server network queries = replies codec server network' queries := by
  induction queries generalizing network network' with
  | nil => rfl
  | cons query queries ih =>
      have reply : network.replyTo codec server query = network'.replyTo codec server query := by
        apply replyTo_eq_of_front
        intro octets _
        rw [received]
        exact fronts _ octets
      have rest : replies codec server (network.afterQuery codec query) queries =
          replies codec server (network'.afterQuery codec query) queries := by
        apply ih
        · rw [received_afterQuery, received_afterQuery, received]
        · intro count octets
          rw [reaction_afterQuery, reaction_afterQuery]
          exact fronts count octets
      rw [replies, replies, reply, rest]

/-! ## Independence -/

/-- The network before anything happens, with a resolver that always reacts the same. -/
def renewed
    (network : Network)
    (reaction : List Octets) :
    Network :=
  { network with
    reaction := fun _ _ => reaction
    received := []
    queues := [] }

/-- Before anything happens, the same reaction to a query comes to the same reply. -/
theorem run_perform_renewed
    (reached : network.Reaches resolver)
    (codec : Codec)
    (timeout : UInt64)
    {query : Message}
    {network' : Network}
    {reaction : List Octets}
    (same : ∀ octets, codec.encode query = some octets →
      reaction = network'.reaction network'.received.length octets) :
    ((perform sockets codec (some timeout) resolver query).run (network.renewed reaction)).1 =
      some (network'.replyTo codec (serverText resolver) query) := by
  have reached' : (network.renewed reaction).Reaches resolver := reached.of_same rfl rfl
  have reply : (network.renewed reaction).replyTo codec (serverText resolver) query =
      network'.replyTo codec (serverText resolver) query := by
    apply replyTo_eq_of_front
    intro octets encoded
    exact congrArg front (same octets encoded)
  rw [run_perform reached' codec timeout query, reply]

/-- Neither what stands behind the fronts of reactions nor what stands in queues has influence. -/
theorem run_performAll_of_front
    (reached : network.Reaches resolver)
    (codec : Codec)
    (timeout : UInt64)
    {reaction : Nat → Octets → List Octets}
    (fronts : ∀ count octets,
      front (network.reaction count octets) = front (reaction count octets))
    (queues : List (List Octets))
    (queries : List Message) :
    ((performAll sockets codec (some timeout) resolver queries).run
        { network with reaction, queues }).1 =
      (replies codec (serverText resolver) network queries).map some := by
  have reached' : ({ network with reaction, queues } : Network).Reaches resolver :=
    reached.of_same rfl rfl
  have same : replies codec (serverText resolver) network queries =
      replies codec (serverText resolver) { network with reaction, queues } queries := by
    apply replies_eq_of_front
    · rfl
    · exact fronts
  rw [run_performAll reached' codec timeout queries, same]

end Network

open Network in
/--
Exchanges with a resolver that can be reached, one after another.  The resolver
receives each query that can be encoded in one datagram, in order.  The result
of a query is what the same exchange comes to in a network in which nothing has
happened, with a resolver that reacts by the same datagrams: it is read from the
first of them, or the exchange times out if there is none.  Neither what stands
behind the front of a reaction nor what is left in queues of earlier sockets
has any influence on any result.
-/
theorem exchanges_independent
    (codec : Codec)
    (timeout : UInt64)
    {resolver : ResolverAddress}
    {network : Network}
    (reached : network.Reaches resolver)
    (queries : List Message) :
    let exchange (query : Message) := perform sockets codec (some timeout) resolver query
    let exchangeAll := performAll sockets codec (some timeout) resolver queries
    let results : List (Option (Except Failure Message)) := (exchangeAll.run network).1
    let reactionAt (index : Nat) (octets : Octets) : List Octets :=
      network.reaction
        (network.received ++ (queries.take index).filterMap codec.encode).length octets
    (exchangeAll.run network).2.received =
      network.received ++ queries.filterMap codec.encode ∧
    results.length = queries.length ∧
    (∀ index query, queries[index]? = some query →
      ∃ result : Except Failure Message, results[index]? = some (some result) ∧
        (∀ reaction,
          (∀ octets, codec.encode query = some octets → reaction = reactionAt index octets) →
          ((exchange query).run (network.renewed reaction)).1 = some result) ∧
        (codec.encode query = none → result = .error (.unencodable "message too long")) ∧
        ∀ octets, codec.encode query = some octets →
          (reactionAt index octets = [] →
            result = .error (.resolverTimeout (serverText resolver))) ∧
          ∀ datagram later, reactionAt index octets = datagram :: later →
            (∀ response, codec.decode (datagram.take Protocol.maxDatagramSize) = some response →
              result = .ok response) ∧
            (codec.decode (datagram.take Protocol.maxDatagramSize) = none →
              ∃ reason, result = .error (.resolverReply (serverText resolver) reason))) ∧
    ∀ reaction' queues',
      (∀ count octets, front (network.reaction count octets) = front (reaction' count octets)) →
      (exchangeAll.run { network with reaction := reaction', queues := queues' }).1 = results := by
  intro exchange exchangeAll results reactionAt
  have ran : exchangeAll.run network =
      ((replies codec (serverText resolver) network queries).map some,
        network.afterQueries codec queries) :=
    run_performAll reached codec timeout queries
  have mapped : results = (replies codec (serverText resolver) network queries).map some :=
    congrArg Prod.fst ran
  refine ⟨?_, ?_, ?_, ?_⟩
  · rw [ran]
    exact received_afterQueries codec network queries
  · rw [mapped, List.length_map, length_replies]
  · intro index query asked
    let between : Network := network.afterQueries codec (queries.take index)
    have reacts : ∀ octets,
        reactionAt index octets = between.reaction between.received.length octets := by
      intro octets
      rw [reaction_afterQueries, received_afterQueries]
    refine ⟨between.replyTo codec (serverText resolver) query, ?_, ?_, ?_, ?_⟩
    · rw [mapped, List.getElem?_map, getElem?_replies, asked]
      rfl
    · intro reaction same
      exact run_perform_renewed reached codec timeout
        (fun octets encoded => (same octets encoded).trans (reacts octets))
    · exact replyTo_of_unencodable between (serverText resolver)
    · intro octets encoded
      rw [replyTo_of_encoded between encoded, ← reacts]
      refine ⟨?_, ?_⟩
      · intro silent
        rw [silent, outcomeOf]
      · intro datagram later reacted
        rw [reacted]
        refine ⟨fun response decoded => outcomeOf_of_decoded decoded _ later, ?_⟩
        exact fun undecodable => ⟨_, outcomeOf_of_undecodable undecodable _ later⟩
  · intro reaction' queues' fronts
    rw [mapped]
    exact run_performAll_of_front reached codec timeout fronts queues' queries

/-- Two queries, of which the first gets two datagrams and the second none. -/
theorem exchanges_independent_of_surplus_datagram :
    let network : Network := {
      reachability := .listening
      reaction := fun count _ =>
        if count = 0 then [List.replicate 12 0, 0xff :: List.replicate 11 0] else [] }
    let results : List (Option (Except Failure Message)) :=
      ((performAll Network.sockets .wire (some 5000) (.literal default)
        [Message.empty.withId 0x1234, Message.empty.withId 0x5678]).run network).1
    results[0]? = some (some (.ok .empty)) ∧
      results[1]? =
        some (some (.error (.resolverTimeout (serverText (.literal default))))) := by
  intro network results
  have reached : network.Reaches (.literal default) := ⟨rfl, _, .literal default⟩
  have law := exchanges_independent .wire 5000 reached
    [Message.empty.withId 0x1234, Message.empty.withId 0x5678]
  rcases law.2.2.1 0 _ rfl with ⟨first, found, -, -, answered⟩
  rcases law.2.2.1 1 _ rfl with ⟨second, found', -, -, timed⟩
  have ok := ((answered _ (Message.encode?_empty_withId 0x1234)).2 _ _ rfl).1 .empty (by decide)
  have silent := (timed _ (Message.encode?_empty_withId 0x5678)).1 (by decide)
  constructor
  · exact found.trans (congrArg (fun result => some (some result)) ok)
  · exact found'.trans (congrArg (fun result => some (some result)) silent)

end DnsOverQuic.Exchange
