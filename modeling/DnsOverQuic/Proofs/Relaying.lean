import DnsOverQuic.Gateway.Relay
import DnsOverQuic.Proofs.ExchangeCourse
import DnsOverQuic.Proofs.Handling

/-!
# Relaying a stream comes to handling it

Octets are rejected for one of four reasons, and then no socket is touched and
nothing is written.  All other octets are a query, and relaying them comes to one
exchange with the resolver and to handling the stream with the reply that the
exchange gave.
-/

namespace DnsOverQuic.Gateway

open Dns

namespace Handler

/-- Why octets get no response and are not forwarded. -/
inductive Rejects
    (handler : Handler)
    (octets : Octets) : Prop where
  | tooShort
      (short : octets.length < Protocol.minMessageSize)
  | tooLong
      (long : Protocol.maxMessageSize < octets.length)
  | malformed
      (decoded : handler.codec.decode octets = none)
  | keepalive
      {query : Message}
      (decoded : handler.codec.decode octets = some query)
      (carries : query.hasOption Protocol.keepaliveOptionCode = true)

variable
    {handler : Handler}
    {octets : Octets}

theorem of_not_rejects
    (accepted : ¬handler.Rejects octets)
    {query : Message}
    (decoded : handler.codec.decode octets = some query) :
    (ClientStream.ofOctets octets).message? = some octets ∧
      handler.examine octets = .ok query := by
  constructor
  · refine ClientStream.message?_eq_some_iff.mpr ⟨rfl, ?_, ?_⟩
    · exact Nat.le_of_not_lt (fun short => accepted (.tooShort short))
    · exact Nat.le_of_not_lt (fun long => accepted (.tooLong long))
  · refine examine_eq_ok_iff.mpr ⟨decoded, ?_⟩
    exact Bool.eq_false_iff.mpr (fun carries => accepted (.keepalive decoded carries))

/-- Octets that are rejected are not delivered, or are refused. -/
theorem Rejects.undelivered_or_refused
    (rejected : handler.Rejects octets) :
    (ClientStream.ofOctets octets).message? = none ∨
      (ClientStream.ofOctets octets).message? = some octets ∧
        ∃ outcome, handler.examine octets = .error outcome := by
  cases delivered : (ClientStream.ofOctets octets).message? with
  | none => exact Or.inl rfl
  | some found =>
      rcases ClientStream.message?_eq_some_iff.mp delivered with ⟨same, enough, few⟩
      cases same
      refine Or.inr ⟨rfl, ?_⟩
      cases examined : handler.examine octets with
      | error outcome => exact ⟨outcome, rfl⟩
      | ok query =>
          rcases examine_eq_ok_iff.mp examined with ⟨decoded, free⟩
          cases rejected with
          | tooShort short => exact absurd short (Nat.not_lt_of_le enough)
          | tooLong long => exact absurd long (Nat.not_lt_of_le few)
          | malformed undecoded =>
              rw [undecoded] at decoded
              cases decoded
          | keepalive decoded' carries =>
              rw [decoded] at decoded'
              cases decoded'
              exact absurd carries (Bool.eq_false_iff.mp free)

theorem written_answer
    (handler : Handler)
    (stream : ClientStream)
    (id : UInt16)
    (response : Message)
    (resolverOk : Bool) :
    (handler.answer stream id response resolverOk).written =
      (handler.codec.encode (response.withId id)).getD [] := by
  unfold answer
  cases handler.codec.encode (response.withId id) with
  | none => rfl
  | some octets => simp [Transcript.written, Event.written]

/-- What is written of a query is the encoded response, or the encoded empty message. -/
theorem written_handle
    {stream : ClientStream}
    {query : Message}
    (delivered : stream.message? = some octets)
    (examined : handler.examine octets = .ok query)
    (reply : Except Failure Message) :
    (handler.handle (fun _ _ => reply) stream).written =
      (handler.codec.encode ((reply.toOption.getD .empty).withId query.id)).getD [] := by
  rw [handle_of_examined delivered examined]
  cases reply with
  | ok response => exact handler.written_answer stream query.id response true
  | error failure => exact handler.written_answer stream query.id .empty false

end Handler

namespace Services

variable
    {σ : Type}
    {services : Services}
    {octets : Octets}

/-- Rejected octets touch no socket, and nothing is written. -/
theorem relay_of_rejects
    (rejected : services.handler.Rejects octets)
    (sockets : Exchange.Sockets σ)
    (state : σ) :
    ∃ transcript,
      (services.relay sockets (.ofOctets octets)).run state = (some transcript, state) ∧
        transcript.written = [] := by
  rcases rejected.undelivered_or_refused with undelivered | ⟨delivered, outcome, refused⟩
  · refine ⟨⟨[.read Protocol.maxMessageSize], .undersized⟩, ?_, rfl⟩
    simp only [relay, Handler.handleWith, undelivered]
    rfl
  · refine ⟨⟨[.read Protocol.maxMessageSize, .count .queries, .close], outcome⟩, ?_, rfl⟩
    simp only [relay, Handler.handleWith, delivered, refused]
    rfl

/-- A query is relayed as its stream is handled with the reply that the exchange gave. -/
theorem relay_of_examined
    {stream : ClientStream}
    {query : Message}
    (delivered : stream.message? = some octets)
    (examined : services.handler.examine octets = .ok query)
    {sockets : Exchange.Sockets σ}
    {before after : σ}
    {reply? : Option (Except Failure Message)}
    (performed :
      (Exchange.perform sockets services.handler.codec services.timeout
        services.handler.resolver (Handler.forwarded query)).run before = (reply?, after)) :
    (services.relay sockets stream).run before =
      (reply?.map (fun reply => services.handler.handle (fun _ _ => reply) stream), after) := by
  simp only [relay, Handler.handleWith, delivered, examined, Handler.handle]
  rw [OptionT.run_bind]
  simp only [Option.elimM, StateT.run_bind, OptionT.run_mk, performed]
  cases reply? <;> rfl

/-- Every relayed stream is handled, with some reply. -/
theorem exists_handle_of_relay
    {stream : ClientStream}
    {sockets : Exchange.Sockets σ}
    {before : σ}
    {transcript : Transcript}
    (relayed : ((services.relay sockets stream).run before).1 = some transcript) :
    ∃ reply, transcript = services.handler.handle (fun _ _ => reply) stream := by
  cases delivered : stream.message? with
  | none =>
      simp only [relay, Handler.handleWith, delivered] at relayed
      cases relayed
      exact ⟨.ok .empty, (Handler.handle_of_unread delivered).symm⟩
  | some octets =>
      cases examined : services.handler.examine octets with
      | error outcome =>
          simp only [relay, Handler.handleWith, delivered, examined] at relayed
          cases relayed
          exact ⟨.ok .empty, (Handler.handle_of_refused delivered examined).symm⟩
      | ok query =>
          rw [relay_of_examined delivered examined rfl] at relayed
          rcases Option.map_eq_some_iff.mp relayed with ⟨reply, -, handled⟩
          exact ⟨reply, handled.symm⟩

/-- What becomes of a query is what the reply makes of it. -/
theorem written_of_relay
    {query : Message}
    (accepted : ¬services.handler.Rejects octets)
    (decoded : services.handler.codec.decode octets = some query)
    {sockets : Exchange.Sockets σ}
    {before after : σ}
    {reply? : Option (Except Failure Message)}
    (performed :
      (Exchange.perform sockets services.handler.codec services.timeout
        services.handler.resolver (Handler.forwarded query)).run before = (reply?, after)) :
    ((services.relay sockets (.ofOctets octets)).run before).1.map Transcript.written =
        reply?.map (fun reply =>
          (services.handler.codec.encode
            ((reply.toOption.getD .empty).withId query.id)).getD []) ∧
      ((services.relay sockets (.ofOctets octets)).run before).2 = after := by
  rcases Handler.of_not_rejects accepted decoded with ⟨delivered, examined⟩
  rw [relay_of_examined delivered examined performed, Option.map_map]
  refine ⟨congrArg (fun written => reply?.map written) ?_, rfl⟩
  funext reply
  exact Handler.written_handle delivered examined reply

end Services

end DnsOverQuic.Gateway
