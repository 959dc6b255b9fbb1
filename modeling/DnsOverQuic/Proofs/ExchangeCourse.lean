import DnsOverQuic.Exchange.Datagram
import Mathlib.Tactic.Common

/-!
# The course of an exchange

What an exchange does, and what comes of it, when each of its socket operations
comes to a given outcome.  It looks the resolver up if need be, opens a socket,
sends the encoded query and waits for a datagram, and it stops at the first of
these that fails.  So it sends at most one datagram, and a response comes of it
only if every operation succeeds and the first octets of the datagram that is
received are a message.
-/

namespace DnsOverQuic.Exchange

open Dns

/-- The octets that an operation sends. -/
def Operation.sent? :
    Operation → Option Octets
  | send _ octets => some octets
  | _ => none

/-- The datagrams that operations send, in order. -/
def datagrams
    (operations : List Operation) :
    List Octets :=
  operations.filterMap Operation.sent?

theorem datagrams_append
    (first second : List Operation) :
    datagrams (first ++ second) = datagrams first ++ datagrams second :=
  List.filterMap_append

section Action

variable
    {σ α β : Type}
    {action : Action σ α}
    {next : α → Action σ β}
    {before after : σ}

theorem run_bind_of_ok
    {answer : α}
    (ran : action.run.run before = (.ok answer, after)) :
    (action >>= next).run.run before = (next answer).run.run after := by
  rw [ExceptT.run_bind, StateT.run_bind, ran]
  rfl

theorem run_bind_of_error
    {failure : Failure}
    (ran : action.run.run before = (.error failure, after)) :
    (action >>= next).run.run before = (.error failure, after) := by
  rw [ExceptT.run_bind, StateT.run_bind, ran]
  rfl

end Action

section Perform

variable
    {σ : Type}
    {sockets : Sockets σ}
    {codec : Codec}
    {resolver : ResolverAddress}
    {query : Message}
    {before after : σ}

theorem run_perform_of_error
    {failure : Failure}
    (timeout : Option UInt64)
    (asked : (ask sockets codec resolver query).run.run before = (.error failure, after)) :
    (perform sockets codec timeout resolver query).run before =
      (some (.error failure), after) := by
  rw [perform, StateT.run_bind, asked]
  rfl

theorem run_perform_of_ok
    {socket : Nat}
    (timeout : Option UInt64)
    (asked : (ask sockets codec resolver query).run.run before = (.ok socket, after)) :
    (perform sockets codec timeout resolver query).run before =
      let (reception, state) := (sockets.receive socket).run after
      (conclude codec timeout (serverText resolver) reception, state) := by
  rw [perform, StateT.run_bind, asked]
  rfl

end Perform

namespace Outcomes

/-- How the address of a resolver is found: the operations, and what comes of them. -/
inductive Locates
    (outcomes : Outcomes) :
    ResolverAddress → List Operation → Except Failure SocketAddress → Prop where
  | literal
      (address : SocketAddress) :
      Locates outcomes (.literal address) [] (.ok address)
  | first
      {host : List Char}
      {number : UInt16}
      {address : SocketAddress}
      {others : List SocketAddress}
      (found : outcomes.lookup = .ok (address :: others)) :
      Locates outcomes (.named host number) [.lookup host number] (.ok address)
  | unknown
      {host : List Char}
      {number : UInt16}
      (found : outcomes.lookup = .ok []) :
      Locates outcomes (.named host number) [.lookup host number]
        (.error (.resolverConnect (serverText (.named host number))
          "lookup returned no addresses"))
  | failed
      {host : List Char}
      {number : UInt16}
      {reason : String}
      (found : outcomes.lookup = .error reason) :
      Locates outcomes (.named host number) [.lookup host number]
        (.error (.resolverConnect (serverText (.named host number))
          ("lookup failed: " ++ reason)))

/-- How an exchange goes: the operations that it does, and what comes of it. -/
inductive Course
    (outcomes : Outcomes)
    (codec : Codec)
    (timeout : Option UInt64)
    (resolver : ResolverAddress)
    (query : Message) :
    List Operation → Option (Except Failure Message) → Prop where
  | unencodable
      (encoded : codec.encode query = none) :
      Course outcomes codec timeout resolver query []
        (some (.error (.unencodable "message too long")))
  | unlocated
      {octets : Octets}
      {operations : List Operation}
      {failure : Failure}
      (encoded : codec.encode query = some octets)
      (located : outcomes.Locates resolver operations (.error failure)) :
      Course outcomes codec timeout resolver query operations (some (.error failure))
  | unbound
      {octets : Octets}
      {operations : List Operation}
      {address : SocketAddress}
      {reason : String}
      (encoded : codec.encode query = some octets)
      (located : outcomes.Locates resolver operations (.ok address))
      (bound : outcomes.bind = .error reason) :
      Course outcomes codec timeout resolver query
        (operations ++ [.bind address.unspecifiedOfFamily])
        (some (.error (.resolverConnect (serverText resolver) ("bind failed: " ++ reason))))
  | unconnected
      {octets : Octets}
      {operations : List Operation}
      {address : SocketAddress}
      {reason : String}
      (encoded : codec.encode query = some octets)
      (located : outcomes.Locates resolver operations (.ok address))
      (bound : outcomes.bind = .ok ())
      (connected : outcomes.connect = .error reason) :
      Course outcomes codec timeout resolver query
        (operations ++ [.bind address.unspecifiedOfFamily, .connect 0 address])
        (some (.error (.resolverConnect (serverText resolver) reason)))
  | unsent
      {octets : Octets}
      {operations : List Operation}
      {address : SocketAddress}
      {reason : String}
      (encoded : codec.encode query = some octets)
      (located : outcomes.Locates resolver operations (.ok address))
      (bound : outcomes.bind = .ok ())
      (connected : outcomes.connect = .ok ())
      (sent : outcomes.send octets = .error reason) :
      Course outcomes codec timeout resolver query
        (operations ++
          [.bind address.unspecifiedOfFamily, .connect 0 address, .send 0 octets])
        (some (.error (.resolverWrite (serverText resolver) reason)))
  | sentShort
      {octets : Octets}
      {operations : List Operation}
      {address : SocketAddress}
      {count : Nat}
      (encoded : codec.encode query = some octets)
      (located : outcomes.Locates resolver operations (.ok address))
      (bound : outcomes.bind = .ok ())
      (connected : outcomes.connect = .ok ())
      (sent : outcomes.send octets = .ok count)
      (short : count ≠ octets.length) :
      Course outcomes codec timeout resolver query
        (operations ++
          [.bind address.unspecifiedOfFamily, .connect 0 address, .send 0 octets])
        (some (.error (.resolverWrite (serverText resolver)
          ("sent " ++ toString count ++ " of " ++ toString octets.length ++ " bytes"))))
  | awaited
      {octets : Octets}
      {operations : List Operation}
      {address : SocketAddress}
      (encoded : codec.encode query = some octets)
      (located : outcomes.Locates resolver operations (.ok address))
      (bound : outcomes.bind = .ok ())
      (connected : outcomes.connect = .ok ())
      (sent : outcomes.send octets = .ok octets.length) :
      Course outcomes codec timeout resolver query
        (operations ++
          [.bind address.unspecifiedOfFamily, .connect 0 address, .send 0 octets, .receive 0])
        (conclude codec timeout (serverText resolver) outcomes.receive)

/-- An operation that comes to a given answer is recorded and its answer reported. -/
theorem run_orFail_record
    {α : Type}
    (failure : String → Failure)
    (operation : Operation)
    (answer : Except String α)
    (before : List Operation) :
    (orFail failure (Sockets.record operation (pure answer))).run.run (before, ()) =
      (answer.mapError failure, (before ++ [operation], ())) := by
  cases answer <;> rfl

variable
    {outcomes : Outcomes}
    {codec : Codec}
    {timeout : Option UInt64}
    {resolver : ResolverAddress}
    {query : Message}

/-- Locating a resolver goes in one of the ways described. -/
theorem exists_locates
    (outcomes : Outcomes)
    (resolver : ResolverAddress) :
    ∃ operations result,
      (locate outcomes.sockets.observed resolver).run.run ([], ()) = (result, (operations, ())) ∧
        outcomes.Locates resolver operations result := by
  rcases outcomes with ⟨lookup, bind, connect, send, receive⟩
  cases resolver with
  | literal address => exact ⟨_, _, rfl, .literal address⟩
  | named host number =>
      cases lookup with
      | error reason => exact ⟨_, _, rfl, .failed rfl⟩
      | ok addresses =>
          cases addresses with
          | nil => exact ⟨_, _, rfl, .unknown rfl⟩
          | cons address others => exact ⟨_, _, rfl, .first rfl⟩

theorem run_openSocket_of_unbound
    {reason : String}
    (bound : outcomes.bind = .error reason)
    (server : String)
    (address : SocketAddress)
    (before : List Operation) :
    (openSocket outcomes.sockets.observed server address).run.run (before, ()) =
      (.error (.resolverConnect server ("bind failed: " ++ reason)),
        (before ++ [.bind address.unspecifiedOfFamily], ())) := by
  rcases outcomes with ⟨lookup, bind, connect, send, receive⟩
  cases bound
  rfl

theorem run_openSocket_of_bound
    (bound : outcomes.bind = .ok ())
    (server : String)
    (address : SocketAddress)
    (before : List Operation) :
    (openSocket outcomes.sockets.observed server address).run.run (before, ()) =
      ((outcomes.connect.mapError (.resolverConnect server)).map (fun _ => 0),
        (before ++ [.bind address.unspecifiedOfFamily, .connect 0 address], ())) := by
  rcases outcomes with ⟨lookup, bind, connect, send, receive⟩
  cases bound
  rw [← List.singleton_append, ← List.append_assoc]
  cases connect <;> rfl

theorem run_send
    (outcomes : Outcomes)
    (failure : String → Failure)
    (socket : Nat)
    (octets : Octets)
    (before : List Operation) :
    (orFail failure (outcomes.sockets.observed.send socket octets)).run.run (before, ()) =
      ((outcomes.send octets).mapError failure, (before ++ [.send socket octets], ())) :=
  run_orFail_record failure (.send socket octets) (outcomes.send octets) before

theorem run_submit_of_unsent
    {octets : Octets}
    {reason : String}
    (sent : outcomes.send octets = .error reason)
    (server : String)
    (socket : Nat)
    (before : List Operation) :
    (submit outcomes.sockets.observed server socket octets).run.run (before, ()) =
      (.error (.resolverWrite server reason), (before ++ [.send socket octets], ())) := by
  apply run_bind_of_error
  rw [run_send, sent]
  rfl

theorem run_submit_of_sent
    {octets : Octets}
    {count : Nat}
    (sent : outcomes.send octets = .ok count)
    (server : String)
    (socket : Nat)
    (before : List Operation) :
    (submit outcomes.sockets.observed server socket octets).run.run (before, ()) =
      (if count = octets.length then
          .ok ()
        else
          .error (.resolverWrite server
            ("sent " ++ toString count ++ " of " ++ toString octets.length ++ " bytes")),
        (before ++ [.send socket octets], ())) := by
  have answered :
      (orFail (.resolverWrite server) (outcomes.sockets.observed.send socket octets)).run.run
          (before, ()) =
        (.ok count, (before ++ [.send socket octets], ())) := by
    rw [run_send, sent]
    rfl
  refine (run_bind_of_ok answered).trans ?_
  by_cases whole : count = octets.length
  · rw [if_pos whole, if_neg (not_not_intro whole)]
    rfl
  · rw [if_neg whole, if_pos whole]
    rfl

section Opened

variable
    {octets : Octets}
    {operations : List Operation}
    {address : SocketAddress}

theorem run_ask_of_located
    (encoded : codec.encode query = some octets)
    (located : (locate outcomes.sockets.observed resolver).run.run ([], ()) =
      (.ok address, (operations, ()))) :
    (ask outcomes.sockets.observed codec resolver query).run.run ([], ()) =
      ExceptT.run (do
        let socket ← openSocket outcomes.sockets.observed (serverText resolver) address
        submit outcomes.sockets.observed (serverText resolver) socket octets
        return socket) (operations, ()) := by
  simp only [ask, encoded]
  exact run_bind_of_ok located

/-- An exchange whose socket is open goes in one of the ways described. -/
theorem exists_course_of_opened
    (timeout : Option UInt64)
    (encoded : codec.encode query = some octets)
    (located : (locate outcomes.sockets.observed resolver).run.run ([], ()) =
      (.ok address, (operations, ())))
    (locates : outcomes.Locates resolver operations (.ok address))
    (bound : outcomes.bind = .ok ())
    (connected : outcomes.connect = .ok ()) :
    ∃ operations result,
      (perform outcomes.sockets.observed codec timeout resolver query).run ([], ()) =
          (result, (operations, ())) ∧
        outcomes.Course codec timeout resolver query operations result := by
  have opened := run_openSocket_of_bound bound (serverText resolver) address operations
  rw [connected] at opened
  have asked := (run_ask_of_located encoded located).trans (run_bind_of_ok opened)
  cases sent : outcomes.send octets with
  | error reason =>
      have submitted := run_submit_of_unsent sent (serverText resolver) 0
        (operations ++ [.bind address.unspecifiedOfFamily, .connect 0 address])
      rw [List.append_assoc] at submitted
      exact ⟨_, _, run_perform_of_error timeout (asked.trans (run_bind_of_error submitted)),
        .unsent encoded locates bound connected sent⟩
  | ok count =>
      have submitted := run_submit_of_sent sent (serverText resolver) 0
        (operations ++ [.bind address.unspecifiedOfFamily, .connect 0 address])
      rw [List.append_assoc] at submitted
      by_cases whole : count = octets.length
      · rw [if_pos whole] at submitted
        subst whole
        refine ⟨_, _, ?_, .awaited encoded locates bound connected sent⟩
        refine (run_perform_of_ok timeout (asked.trans (run_bind_of_ok submitted))).trans ?_
        change (conclude codec timeout (serverText resolver) outcomes.receive,
          ((operations ++ [_, _, _]) ++ [_], ())) = _
        rw [List.append_assoc]
        rfl
      · rw [if_neg whole] at submitted
        exact ⟨_, _, run_perform_of_error timeout (asked.trans (run_bind_of_error submitted)),
          .sentShort encoded locates bound connected sent whole⟩

end Opened

/-- Every exchange goes in one of the ways described. -/
theorem exists_course
    (outcomes : Outcomes)
    (codec : Codec)
    (timeout : Option UInt64)
    (resolver : ResolverAddress)
    (query : Message) :
    ∃ operations result,
      (perform outcomes.sockets.observed codec timeout resolver query).run ([], ()) =
          (result, (operations, ())) ∧
        outcomes.Course codec timeout resolver query operations result := by
  -- The cases are the operations in their order; each failure ends the exchange.
  cases encoded : codec.encode query with
  | none =>
      refine ⟨_, _, run_perform_of_error timeout ?_, .unencodable encoded⟩
      simp only [ask, encoded]
      rfl
  | some octets =>
      rcases exists_locates outcomes resolver with ⟨operations, result, located, locates⟩
      cases result with
      | error failure =>
          refine ⟨_, _, run_perform_of_error timeout ?_, .unlocated encoded locates⟩
          simp only [ask, encoded]
          exact run_bind_of_error located
      | ok address =>
          have asked := run_ask_of_located encoded located
          cases bound : outcomes.bind with
          | error reason =>
              have unopened :=
                run_openSocket_of_unbound bound (serverText resolver) address operations
              exact ⟨_, _,
                run_perform_of_error timeout (asked.trans (run_bind_of_error unopened)),
                .unbound encoded locates bound⟩
          | ok =>
              cases connected : outcomes.connect with
              | error reason =>
                  have unopened :=
                    run_openSocket_of_bound bound (serverText resolver) address operations
                  rw [connected] at unopened
                  exact ⟨_, _,
                    run_perform_of_error timeout (asked.trans (run_bind_of_error unopened)),
                    .unconnected encoded locates bound connected⟩
              | ok =>
                  exact exists_course_of_opened timeout encoded located locates bound connected

/-- The resolver can be reached, and takes the encoded query whole. -/
structure Delivers
    (outcomes : Outcomes)
    (codec : Codec)
    (resolver : ResolverAddress)
    (query : Message) : Prop where
  located : ∃ operations address, outcomes.Locates resolver operations (.ok address)
  bound : outcomes.bind = .ok ()
  connected : outcomes.connect = .ok ()
  sent : ∃ octets, codec.encode query = some octets ∧ outcomes.send octets = .ok octets.length

/-- The resolver takes the query, and the datagram that comes back begins with a response. -/
structure Answers
    (outcomes : Outcomes)
    (codec : Codec)
    (resolver : ResolverAddress)
    (query response : Message) : Prop where
  delivers : outcomes.Delivers codec resolver query
  received :
    ∃ datagram, outcomes.receive = .datagram datagram ∧
      codec.decode (datagram.take Protocol.maxDatagramSize) = some response

/-- The resolver takes the query and is silent, and waiting for it has no timeout. -/
structure WaitsForever
    (outcomes : Outcomes)
    (codec : Codec)
    (timeout : Option UInt64)
    (resolver : ResolverAddress)
    (query : Message) : Prop where
  delivers : outcomes.Delivers codec resolver query
  silent : outcomes.receive = .silence
  unlimited : timeout = none

theorem Locates.not_error
    {operations operations' : List Operation}
    {address : SocketAddress}
    {failure : Failure}
    (located : outcomes.Locates resolver operations (.ok address)) :
    ¬outcomes.Locates resolver operations' (.error failure) := by
  intro failed
  cases located with
  | literal => cases failed
  | first found =>
      cases failed with
      | unknown found' => cases found.symm.trans found'
      | failed found' => cases found.symm.trans found'

theorem Locates.datagrams_eq_nil
    {operations : List Operation}
    {result : Except Failure SocketAddress}
    (locates : outcomes.Locates resolver operations result) :
    datagrams operations = [] := by
  cases locates <;> rfl

namespace Course

variable
    {operations : List Operation}
    {result : Option (Except Failure Message)}

/-- An exchange sends nothing, or the encoded query and nothing else. -/
theorem datagrams_eq
    (course : outcomes.Course codec timeout resolver query operations result) :
    datagrams operations = [] ∨
      ∃ octets, codec.encode query = some octets ∧ datagrams operations = [octets] := by
  cases course with
  | unencodable => exact Or.inl rfl
  | unlocated _ located => exact Or.inl located.datagrams_eq_nil
  | unbound _ located => exact Or.inl (by rw [datagrams_append, located.datagrams_eq_nil]; rfl)
  | unconnected _ located =>
      exact Or.inl (by rw [datagrams_append, located.datagrams_eq_nil]; rfl)
  | unsent encoded located =>
      exact Or.inr ⟨_, encoded, by rw [datagrams_append, located.datagrams_eq_nil]; rfl⟩
  | sentShort encoded located =>
      exact Or.inr ⟨_, encoded, by rw [datagrams_append, located.datagrams_eq_nil]; rfl⟩
  | awaited encoded located =>
      exact Or.inr ⟨_, encoded, by rw [datagrams_append, located.datagrams_eq_nil]; rfl⟩

/-- An exchange that delivers its query comes to what is received, and no other succeeds. -/
theorem delivers_or_failed
    (course : outcomes.Course codec timeout resolver query operations result) :
    (outcomes.Delivers codec resolver query ∧
        result = conclude codec timeout (serverText resolver) outcomes.receive) ∨
      (¬outcomes.Delivers codec resolver query ∧ ∃ failure, result = some (.error failure)) := by
  cases course with
  | unencodable encoded =>
      refine Or.inr ⟨?_, _, rfl⟩
      rintro ⟨-, -, -, octets, encoded', -⟩
      cases encoded.symm.trans encoded'
  | unlocated _ failed =>
      refine Or.inr ⟨?_, _, rfl⟩
      rintro ⟨⟨_, _, located⟩, -, -, -⟩
      exact located.not_error failed
  | unbound _ _ bound =>
      refine Or.inr ⟨?_, _, rfl⟩
      rintro ⟨-, bound', -, -⟩
      cases bound.symm.trans bound'
  | unconnected _ _ _ connected =>
      refine Or.inr ⟨?_, _, rfl⟩
      rintro ⟨-, -, connected', -⟩
      cases connected.symm.trans connected'
  | unsent encoded _ _ _ sent =>
      refine Or.inr ⟨?_, _, rfl⟩
      rintro ⟨-, -, -, octets, encoded', sent'⟩
      cases encoded.symm.trans encoded'
      cases sent.symm.trans sent'
  | sentShort encoded _ _ _ sent short =>
      refine Or.inr ⟨?_, _, rfl⟩
      rintro ⟨-, -, -, octets, encoded', sent'⟩
      cases encoded.symm.trans encoded'
      cases sent.symm.trans sent'
      exact short rfl
  | awaited encoded located bound connected sent =>
      exact Or.inl ⟨⟨⟨_, _, located⟩, bound, connected, _, encoded, sent⟩, rfl⟩

/-- An exchange comes to a response exactly if the resolver answers with it. -/
theorem eq_some_ok_iff
    (course : outcomes.Course codec timeout resolver query operations result)
    {response : Message} :
    result = some (.ok response) ↔ outcomes.Answers codec resolver query response := by
  rcases course.delivers_or_failed with ⟨delivers, same⟩ | ⟨undelivered, failure, same⟩
  · rw [same]
    constructor
    · intro concluded
      cases received : outcomes.receive with
      | datagram octets =>
          refine ⟨delivers, octets, received, ?_⟩
          cases decoded : codec.decode (octets.take Protocol.maxDatagramSize) with
          | none => simp [received, conclude, interpret, decoded] at concluded
          | some message => simpa [received, conclude, interpret, decoded] using concluded
      | fault reason => simp [received, conclude] at concluded
      | silence => simp [received, conclude] at concluded
    · rintro ⟨-, octets, received, decoded⟩
      simp [received, conclude, interpret, decoded]
  · rw [same]
    constructor
    · intro succeeded
      cases succeeded
    · intro answers
      exact absurd answers.delivers undelivered

/-- An exchange does not end exactly if it waits forever. -/
theorem eq_none_iff
    (course : outcomes.Course codec timeout resolver query operations result) :
    result = none ↔ outcomes.WaitsForever codec timeout resolver query := by
  rcases course.delivers_or_failed with ⟨delivers, same⟩ | ⟨undelivered, failure, same⟩
  · rw [same]
    constructor
    · intro concluded
      cases received : outcomes.receive with
      | datagram octets => simp [received, conclude] at concluded
      | fault reason => simp [received, conclude] at concluded
      | silence => exact ⟨delivers, received, by simpa [received, conclude] using concluded⟩
    · rintro ⟨-, silent, unlimited⟩
      simp [silent, unlimited, conclude]
  · rw [same]
    constructor
    · intro endless
      cases endless
    · intro waits
      exact absurd waits.delivers undelivered

theorem exists_failure
    (course : outcomes.Course codec timeout resolver query operations result)
    (unanswered : ∀ response, ¬outcomes.Answers codec resolver query response)
    (ends : ¬outcomes.WaitsForever codec timeout resolver query) :
    ∃ failure, result = some (.error failure) := by
  cases concluded : result with
  | none => exact absurd (course.eq_none_iff.mp concluded) ends
  | some reply =>
      cases reply with
      | error failure => exact ⟨failure, rfl⟩
      | ok response => exact absurd (course.eq_some_ok_iff.mp concluded) (unanswered response)

end Course

end Outcomes

end DnsOverQuic.Exchange
