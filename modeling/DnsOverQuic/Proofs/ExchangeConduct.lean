import DnsOverQuic.Proofs.ExchangeCourse
import Mathlib.Data.List.Basic

/-!
# The conduct of an exchange

An exchange does a part of one plan: it looks a name up if need be, binds a socket,
connects it, sends the encoded query and waits for a datagram.  It goes on from an
operation only if that has succeeded.  So the last operation of an exchange that fails
is the one to blame, its failure names the resolver, and the query is sent at most once,
from a socket that is bound and connected.
-/

namespace DnsOverQuic.Exchange

open Dns

/-- The failures as which an operation is reported, for the server they name. -/
inductive Operation.Reports
    (server : String) :
    Operation → Failure → Prop where
  | lookup
      (host : List Char)
      (number : UInt16)
      (reason : String) :
      Reports server (.lookup host number) (.resolverConnect server reason)
  | bind
      (address : SocketAddress)
      (reason : String) :
      Reports server (.bind address) (.resolverConnect server reason)
  | connect
      (socket : Nat)
      (address : SocketAddress)
      (reason : String) :
      Reports server (.connect socket address) (.resolverConnect server reason)
  | send
      (socket : Nat)
      (octets : Octets)
      (reason : String) :
      Reports server (.send socket octets) (.resolverWrite server reason)
  | fault
      (socket : Nat)
      (reason : String) :
      Reports server (.receive socket) (.resolverRead server reason)
  | silence
      (socket : Nat) :
      Reports server (.receive socket) (.resolverTimeout server)
  | reply
      (socket : Nat)
      (reason : String) :
      Reports server (.receive socket) (.resolverReply server reason)

namespace Outcomes

/-- An operation comes to what an exchange goes on from. -/
def Succeeds
    (outcomes : Outcomes)
    (codec : Codec) :
    Operation → Prop
  | .lookup _ _ => ∃ address others, outcomes.lookup = .ok (address :: others)
  | .bind _ => outcomes.bind = .ok ()
  | .connect _ _ => outcomes.connect = .ok ()
  | .send _ octets => outcomes.send octets = .ok octets.length
  | .receive _ =>
      ∃ datagram response, outcomes.receive = .datagram datagram ∧
        codec.decode (datagram.take Protocol.maxDatagramSize) = some response

/-- An operation is to blame for a failure, which names the server. -/
structure Blames
    (outcomes : Outcomes)
    (codec : Codec)
    (server : String)
    (operation : Operation)
    (failure : Failure) : Prop where
  failed : ¬outcomes.Succeeds codec operation
  reported : operation.Reports server failure

/-- What is done with the address of a resolver and the encoded query. -/
def plan
    (address : SocketAddress)
    (octets : Octets) :
    List Operation :=
  [.bind address.unspecifiedOfFamily, .connect 0 address, .send 0 octets, .receive 0]

variable
    {outcomes : Outcomes}
    {codec : Codec}
    {timeout : Option UInt64}
    {resolver : ResolverAddress}
    {query : Message}

/-- A resolver is located by lookups alone. -/
theorem Locates.eq_lookup
    {operations : List Operation}
    {result : Except Failure SocketAddress}
    {operation : Operation}
    (locates : outcomes.Locates resolver operations result)
    (member : operation ∈ operations) :
    ∃ host number, operation = .lookup host number := by
  cases locates with
  | literal => exact absurd member List.not_mem_nil
  | first => exact ⟨_, _, List.mem_singleton.mp member⟩
  | unknown => exact ⟨_, _, List.mem_singleton.mp member⟩
  | failed => exact ⟨_, _, List.mem_singleton.mp member⟩

theorem Locates.succeeds
    {operations : List Operation}
    {address : SocketAddress}
    (locates : outcomes.Locates resolver operations (.ok address)) :
    ∀ operation ∈ operations, outcomes.Succeeds codec operation := by
  cases locates with
  | literal => exact fun _ member => absurd member List.not_mem_nil
  | first found =>
      intro operation member
      rw [List.mem_singleton.mp member]
      exact ⟨_, _, found⟩

/-- A resolver that is not located is so by a failed lookup. -/
theorem Locates.blamed
    {operations : List Operation}
    {failure : Failure}
    (codec : Codec)
    (locates : outcomes.Locates resolver operations (.error failure)) :
    ∃ last, operations = [last] ∧ outcomes.Blames codec (serverText resolver) last failure := by
  cases locates with
  | unknown found =>
      refine ⟨_, rfl, ?_, .lookup _ _ _⟩
      rintro ⟨address, others, found'⟩
      cases found.symm.trans found'
  | failed found =>
      refine ⟨_, rfl, ?_, .lookup _ _ _⟩
      rintro ⟨address, others, found'⟩
      cases found.symm.trans found'

/-- If what is received comes to a failure then receiving is to blame. -/
theorem blames_of_conclude
    {server : String}
    {failure : Failure}
    (socket : Nat)
    (concluded : conclude codec timeout server outcomes.receive = some (.error failure)) :
    outcomes.Blames codec server (.receive socket) failure := by
  cases received : outcomes.receive with
  | datagram octets =>
      cases decoded : codec.decode (octets.take Protocol.maxDatagramSize) with
      | some message => simp [received, conclude, interpret, decoded] at concluded
      | none =>
          simp only [received, conclude, interpret, decoded, Option.some.injEq,
            Except.error.injEq] at concluded
          subst concluded
          refine ⟨?_, .reply _ _⟩
          rintro ⟨datagram, response, received', decoded'⟩
          cases received.symm.trans received'
          cases decoded.symm.trans decoded'
  | fault reason =>
      simp only [received, conclude, Option.some.injEq, Except.error.injEq] at concluded
      subst concluded
      refine ⟨?_, .fault _ _⟩
      rintro ⟨datagram, response, received', -⟩
      cases received.symm.trans received'
  | silence =>
      simp only [received, conclude, Option.map_eq_some_iff, Except.error.injEq] at concluded
      rcases concluded with ⟨limit, -, same⟩
      subst same
      refine ⟨?_, .silence _⟩
      rintro ⟨datagram, response, received', -⟩
      cases received.symm.trans received'

/--
How far an exchange with an encoded query gets.  Either the resolver is not located,
or the plan is followed up to an operation from which the exchange does not go on.
-/
inductive Reaches
    (outcomes : Outcomes)
    (codec : Codec)
    (resolver : ResolverAddress)
    (octets : Octets) :
    List Operation → Option (Except Failure Message) → Prop where
  | unlocated
      {operations : List Operation}
      {failure : Failure}
      (located : outcomes.Locates resolver operations (.error failure)) :
      Reaches outcomes codec resolver octets operations (some (.error failure))
  | within
      (done : List Operation)
      {located later : List Operation}
      {address : SocketAddress}
      {last : Operation}
      {result : Option (Except Failure Message)}
      (locates : outcomes.Locates resolver located (.ok address))
      (parts : plan address octets = done ++ last :: later)
      (succeeded : ∀ operation ∈ done, outcomes.Succeeds codec operation)
      (blamed : ∀ failure, result = some (.error failure) →
        outcomes.Blames codec (serverText resolver) last failure) :
      Reaches outcomes codec resolver octets (located ++ (done ++ [last])) result

section Reaches

variable
    {octets : Octets}
    {operations : List Operation}
    {result : Option (Except Failure Message)}

theorem Course.reaches
    (encoded : codec.encode query = some octets)
    (course : outcomes.Course codec timeout resolver query operations result) :
    outcomes.Reaches codec resolver octets operations result := by
  cases course with
  | unencodable encoded' => cases encoded.symm.trans encoded'
  | unlocated _ located => exact .unlocated located
  | unbound _ located bound =>
      refine .within [] located rfl (by simp) ?_
      rintro _ ⟨⟩
      exact ⟨by simp [Succeeds, bound], .bind _ _⟩
  | unconnected _ located bound connected =>
      refine .within [.bind _] located rfl (by simp [Succeeds, bound]) ?_
      rintro _ ⟨⟩
      exact ⟨by simp [Succeeds, connected], .connect _ _ _⟩
  | unsent encoded' located bound connected sent =>
      cases encoded.symm.trans encoded'
      refine .within [.bind _, .connect 0 _] located rfl
        (by simp [Succeeds, bound, connected]) ?_
      rintro _ ⟨⟩
      exact ⟨by simp [Succeeds, sent], .send _ _ _⟩
  | sentShort encoded' located bound connected sent short =>
      cases encoded.symm.trans encoded'
      refine .within [.bind _, .connect 0 _] located rfl
        (by simp [Succeeds, bound, connected]) ?_
      rintro _ ⟨⟩
      exact ⟨by simp [Succeeds, sent, short], .send _ _ _⟩
  | awaited encoded' located bound connected sent =>
      cases encoded.symm.trans encoded'
      exact .within [.bind _, .connect 0 _, .send 0 _] located rfl
        (by simp [Succeeds, bound, connected, sent])
        (fun _ concluded => blames_of_conclude 0 concluded)

namespace Reaches

/-- An exchange goes on from no operation but one that succeeds. -/
theorem succeeds_of_mem_dropLast
    (reaches : outcomes.Reaches codec resolver octets operations result)
    {operation : Operation}
    (member : operation ∈ operations.dropLast) :
    outcomes.Succeeds codec operation := by
  cases reaches with
  | unlocated located =>
      rcases located.blamed codec with ⟨last, same, -⟩
      subst same
      exact absurd member List.not_mem_nil
  | within _ locates _ succeeded _ =>
      rw [← List.append_assoc, List.dropLast_concat, List.mem_append] at member
      rcases member with locating | done
      · exact locates.succeeds operation locating
      · exact succeeded operation done

/-- An exchange that does more than locate the resolver follows the plan. -/
theorem followed
    (reaches : outcomes.Reaches codec resolver octets operations result) :
    (∃ failure, outcomes.Locates resolver operations (.error failure)) ∨
      ∃ located address later, outcomes.Locates resolver located (.ok address) ∧
        operations ++ later = located ++ plan address octets := by
  cases reaches with
  | unlocated failed => exact Or.inl ⟨_, failed⟩
  | @within _ located later address _ _ locates parts =>
      exact Or.inr ⟨located, address, later, locates, by simp [parts]⟩

/-- The query is sent from a socket that is bound and connected, to the located resolver. -/
theorem sent
    {before after : List Operation}
    {socket : Nat}
    {datagram : Octets}
    (reaches : outcomes.Reaches codec resolver octets
      (before ++ .send socket datagram :: after) result) :
    datagram = octets ∧ ∃ located address, outcomes.Locates resolver located (.ok address) ∧
      before = located ++ [.bind address.unspecifiedOfFamily, .connect socket address] := by
  rcases reaches.followed with
    ⟨failure, failed⟩ | ⟨located, address, later, locates, follows⟩
  · rcases failed.eq_lookup (List.mem_append_right _ List.mem_cons_self) with ⟨_, _, ⟨⟩⟩
  · -- The plan sends once, so what precedes the sending is determined.
    have parts :
        (located ++ [.bind address.unspecifiedOfFamily, .connect 0 address]) ++
            .send 0 octets :: [.receive 0] =
          before ++ .send socket datagram :: (after ++ later) := by
      simpa [plan] using follows.symm
    have notLocated : .send socket datagram ∉ located := by
      intro member
      rcases locates.eq_lookup member with ⟨_, _, ⟨⟩⟩
    rcases (List.append_cons_inj_of_notMem (by simp [notLocated]) (by simp)).mp parts with
      ⟨sameBefore, sameSent, -⟩
    cases sameSent
    exact ⟨rfl, located, address, locates, sameBefore.symm⟩

/-- The socket is bound without an address of its own, in the family of the target. -/
theorem bound
    {own : SocketAddress}
    (reaches : outcomes.Reaches codec resolver octets operations result)
    (member : .bind own ∈ operations) :
    ∃ located address, outcomes.Locates resolver located (.ok address) ∧
      own = address.unspecifiedOfFamily ∧
      ∀ socket target, .connect socket target ∈ operations → target = address := by
  rcases reaches.followed with
    ⟨failure, failed⟩ | ⟨located, address, later, locates, follows⟩
  · rcases failed.eq_lookup member with ⟨_, _, ⟨⟩⟩
  · have planned
        {operation : Operation}
        (done : operation ∈ operations) :
        (∃ host number, operation = .lookup host number) ∨
          operation ∈ plan address octets := by
      have among := List.mem_append_left later done
      rw [follows, List.mem_append] at among
      exact among.imp_left locates.eq_lookup
    refine ⟨located, address, locates, ?_, ?_⟩
    · simpa [plan] using planned member
    · intro socket target connected
      have same : socket = 0 ∧ target = address := by
        simpa [plan] using planned connected
      exact same.2

/-- The query is sent only once there is a socket that is bound and connected. -/
theorem opened
    {before after : List Operation}
    {socket : Nat}
    {datagram : Octets}
    (reaches : outcomes.Reaches codec resolver octets
      (before ++ .send socket datagram :: after) result) :
    outcomes.bind = .ok () ∧ outcomes.connect = .ok () := by
  rcases reaches.sent with ⟨-, located, address, -, same⟩
  have earlier
      {operation : Operation}
      (member : operation ∈ before) :
      outcomes.Succeeds codec operation := by
    refine reaches.succeeds_of_mem_dropLast ?_
    rw [List.dropLast_append_of_ne_nil (List.cons_ne_nil _ _)]
    exact List.mem_append_left _ member
  have bindSucceeds : outcomes.Succeeds codec (.bind address.unspecifiedOfFamily) :=
    earlier (by simp [same])
  have connectSucceeds : outcomes.Succeeds codec (.connect socket address) :=
    earlier (by simp [same])
  exact ⟨bindSucceeds, connectSucceeds⟩

end Reaches

end Reaches

namespace Course

variable
    {operations : List Operation}
    {result : Option (Except Failure Message)}

end Course

end Outcomes

end DnsOverQuic.Exchange
