import DnsOverQuic.Client.Connection
import DnsOverQuic.Proofs.MessageHeader
import DnsOverQuic.Proofs.MessageSize
import DnsOverQuic.Proofs.Relaying

/-!
# From the client to the resolver and back

What a client reads on its stream is determined by the octets that it sent and
by what the exchange with the resolver comes to: nothing, the response under the
client's identifier, or an empty message under it.  A client that asks through
the gateway hence gets a response with the identifier of its query, or reports
that it got none.
-/

namespace DnsOverQuic.Client

open Dns

/-- A client that can write its query and does not read too much understands what it reads. -/
theorem ask_eq_understand
    {codec : Codec}
    {answer : Octets → Octets}
    {query : Message}
    {packed : Octets}
    (encoded : codec.encode query = some packed)
    (few : (answer packed).length ≤ Protocol.maxMessageSize) :
    ask codec answer query = understand codec (answer packed) := by
  simp only [ask, encoded]
  exact if_neg (Nat.not_lt_of_le few)

theorem understand_of_decoded
    {codec : Codec}
    {octets : Octets}
    {response : Message}
    (decoded : codec.decode octets = some response) :
    understand codec octets = .ok response := by
  rw [understand, decoded]

theorem understand_of_undecoded
    {codec : Codec}
    {octets : Octets}
    (undecoded : codec.decode octets = none) :
    understand codec octets = .error (.invalidMessage "not a message") := by
  rw [understand, undecoded]

theorem understand_nil :
    understand .wire [] = .error (.invalidMessage "not a message") :=
  understand_of_undecoded rfl

theorem understand_empty_withId
    (id : UInt16) :
    understand .wire ((Codec.wire.encode (Message.empty.withId id)).getD []) =
      .ok (Message.empty.withId id) := by
  have written : Codec.wire.encode (Message.empty.withId id) = _ := Message.encode?_empty_withId id
  rw [written, Option.getD_some]
  exact understand_of_decoded
    (Codec.decode_wire_eq_some_iff.mpr (Message.decode_empty_withId id))

section Written

variable
    {written : Message}

/-- What was written and can be read back is understood. -/
theorem understand_getD_of_some
    {reply : Message}
    (read : (Codec.wire.encode written).bind Codec.wire.decode = some reply) :
    understand .wire ((Codec.wire.encode written).getD []) = .ok reply := by
  rcases Option.bind_eq_some_iff.mp read with ⟨octets, encoded, decoded⟩
  rw [encoded]
  exact understand_of_decoded decoded

theorem understand_getD_of_none
    (unread : (Codec.wire.encode written).bind Codec.wire.decode = none) :
    understand .wire ((Codec.wire.encode written).getD []) =
      .error (.invalidMessage "not a message") := by
  cases encoded : Codec.wire.encode written with
  | none => exact understand_nil
  | some octets =>
      rw [encoded] at unread
      exact understand_of_undecoded unread

end Written

theorem id_of_understand
    {written response : Message}
    {octets : Octets}
    (encoded : Codec.wire.encode written = some octets)
    (understood : understand .wire octets = .ok response) :
    response.id = written.id := by
  unfold understand at understood
  split at understood
  next read decoded =>
    cases understood
    exact Message.id_of_decode_of_encode? encoded (Codec.decode_wire_eq_some_iff.mp decoded)
  next => cases understood

end DnsOverQuic.Client

namespace DnsOverQuic.Gateway

open Dns
open Exchange (Outcomes)

namespace Services

/-- What the client reads after it sent octets, if its stream comes to an end. -/
def heard?
    (services : Services)
    (outcomes : Outcomes)
    (octets : Octets) :
    Option Octets :=
  ((services.relay outcomes.sockets.observed (.ofOctets octets)).run ([], ())).1.map
    Transcript.written

/-- The socket operations that the octets of a client give rise to. -/
def operations
    (services : Services)
    (outcomes : Outcomes)
    (octets : Octets) :
    List Exchange.Operation :=
  ((services.relay outcomes.sockets.observed (.ofOctets octets)).run ([], ())).2.1

variable
    {services : Services}
    {outcomes : Outcomes}
    {octets : Octets}

/-- After rejected octets the client reads nothing, and no socket is touched. -/
theorem heard?_of_rejects
    (outcomes : Outcomes)
    (rejected : services.handler.Rejects octets) :
    services.operations outcomes octets = [] ∧ services.heard? outcomes octets = some [] := by
  rcases relay_of_rejects rejected outcomes.sockets.observed ([], ()) with
    ⟨transcript, relayed, silent⟩
  rw [operations, heard?, relayed]
  exact ⟨rfl, congrArg some silent⟩

/-- After a query there is one exchange, and the client reads what its reply comes to. -/
theorem exists_course_of_accepted
    (outcomes : Outcomes)
    (accepted : ¬services.handler.Rejects octets)
    {message : Message}
    (decoded : services.handler.codec.decode octets = some message) :
    ∃ result,
      outcomes.Course services.handler.codec services.timeout services.handler.resolver
          (Handler.forwarded message) (services.operations outcomes octets) result ∧
        services.heard? outcomes octets = result.map (fun reply =>
          (services.handler.codec.encode
            ((reply.toOption.getD .empty).withId message.id)).getD []) := by
  rcases outcomes.exists_course services.handler.codec services.timeout
    services.handler.resolver (Handler.forwarded message) with ⟨done, result, performed, course⟩
  rcases written_of_relay accepted decoded performed with ⟨heard, after⟩
  refine ⟨result, ?_, heard⟩
  rw [operations, after]
  exact course

section Accepted

variable
    {message : Message}

theorem datagrams_operations
    (outcomes : Outcomes)
    (accepted : ¬services.handler.Rejects octets)
    (decoded : services.handler.codec.decode octets = some message) :
    Exchange.datagrams (services.operations outcomes octets) = [] ∨
      ∃ datagram, services.handler.codec.encode (Handler.forwarded message) = some datagram ∧
        Exchange.datagrams (services.operations outcomes octets) = [datagram] := by
  rcases exists_course_of_accepted outcomes accepted decoded with ⟨result, course, -⟩
  exact course.datagrams_eq

/-- The client of a query that is answered reads the response under its own identifier. -/
theorem heard?_of_answers
    (accepted : ¬services.handler.Rejects octets)
    (decoded : services.handler.codec.decode octets = some message)
    {response : Message}
    (answers : outcomes.Answers services.handler.codec services.handler.resolver
      (Handler.forwarded message) response) :
    services.heard? outcomes octets =
      some ((services.handler.codec.encode (response.withId message.id)).getD []) := by
  rcases exists_course_of_accepted outcomes accepted decoded with ⟨result, course, heard⟩
  rw [heard, course.eq_some_ok_iff.mpr answers]
  rfl

theorem heard?_of_waitsForever
    (accepted : ¬services.handler.Rejects octets)
    (decoded : services.handler.codec.decode octets = some message)
    (waits : outcomes.WaitsForever services.handler.codec services.timeout
      services.handler.resolver (Handler.forwarded message)) :
    services.heard? outcomes octets = none := by
  rcases exists_course_of_accepted outcomes accepted decoded with ⟨result, course, heard⟩
  rw [heard, course.eq_none_iff.mpr waits]
  rfl

/-- The client of a query that is not answered reads an empty message, if its stream ends. -/
theorem heard?_of_unanswered
    (accepted : ¬services.handler.Rejects octets)
    (decoded : services.handler.codec.decode octets = some message)
    (unanswered : ∀ response, ¬outcomes.Answers services.handler.codec
      services.handler.resolver (Handler.forwarded message) response)
    (ends : ¬outcomes.WaitsForever services.handler.codec services.timeout
      services.handler.resolver (Handler.forwarded message)) :
    services.heard? outcomes octets =
      some ((services.handler.codec.encode (Message.empty.withId message.id)).getD []) := by
  rcases exists_course_of_accepted outcomes accepted decoded with ⟨result, course, heard⟩
  rcases course.exists_failure unanswered ends with ⟨failure, failed⟩
  rw [heard, failed]
  rfl

end Accepted

/--
What a client reads is nothing, or a message that was written under the identifier
of what it sent.
-/
theorem eq_nil_or_encoded_of_heard?
    (wired : services.handler.codec = .wire)
    {received : Octets}
    (heard : services.heard? outcomes octets = some received) :
    received = [] ∨
      ∃ message written : Message, Codec.wire.decode octets = some message ∧
        Codec.wire.encode written = some received ∧ written.id = message.id := by
  by_cases rejected : services.handler.Rejects octets
  · rw [(heard?_of_rejects outcomes rejected).2] at heard
    cases heard
    exact Or.inl rfl
  · cases decoded : services.handler.codec.decode octets with
    | none => exact absurd (.malformed decoded) rejected
    | some message =>
        rcases exists_course_of_accepted outcomes rejected decoded with ⟨result, -, same⟩
        rw [same] at heard
        rcases Option.map_eq_some_iff.mp heard with ⟨reply, -, written⟩
        rw [wired] at decoded written
        cases encoded : Codec.wire.encode ((reply.toOption.getD .empty).withId message.id) with
        | none =>
            rw [encoded] at written
            exact Or.inl written.symm
        | some packed =>
            rw [encoded] at written
            cases written
            exact Or.inr ⟨message, _, decoded, encoded, rfl⟩

/-- A client never reads more than a message may be long. -/
theorem length_of_heard?
    (wired : services.handler.codec = .wire)
    {received : Octets}
    (heard : services.heard? outcomes octets = some received) :
    received.length ≤ Protocol.maxMessageSize := by
  rcases eq_nil_or_encoded_of_heard? wired heard with rfl | ⟨-, written, -, encoded, -⟩
  · exact Nat.zero_le _
  · exact Message.length_of_encode? encoded

section Client

variable
    {query : Message}
    {packed received : Octets}

/-- A client whose stream comes to an end understands what the gateway lets it hear. -/
theorem ask_of_heard?
    (wired : services.handler.codec = .wire)
    (encoded : Codec.wire.encode query = some packed)
    (heard : services.heard? outcomes packed = some received) :
    Client.ask .wire (fun sent => (services.heard? outcomes sent).getD []) query =
      Client.understand .wire received := by
  have answer : (services.heard? outcomes packed).getD [] = received := by
    rw [heard, Option.getD_some]
  rw [Client.ask_eq_understand encoded (answer ▸ length_of_heard? wired heard), answer]

/-- A client that asks through the gateway gets no response but to its own query. -/
theorem id_of_ask_of_heard?
    (wired : services.handler.codec = .wire)
    (encoded : Codec.wire.encode query = some packed)
    (heard : services.heard? outcomes packed = some received)
    {response : Message}
    (asked :
      Client.ask .wire (fun sent => (services.heard? outcomes sent).getD []) query =
        .ok response) :
    response.id = query.id := by
  rw [ask_of_heard? wired encoded heard] at asked
  rcases eq_nil_or_encoded_of_heard? wired heard with
    rfl | ⟨message, written, decoded, encoded', same⟩
  · rw [Client.understand_nil] at asked
    cases asked
  · rw [Client.id_of_understand encoded' asked, same]
    exact Message.id_of_decode_of_encode? encoded (Codec.decode_wire_eq_some_iff.mp decoded)

end Client

end Services

/--
The law of one stream, from the octets that its client sends to those that it
reads, whatever the socket operations come to.  Rejected octets touch no socket
and get nothing back.  The query in all other octets is sent at most once, under
the identifier zero, and the client reads the response under its own identifier,
or nothing if that cannot be written, or an empty message if the exchange fails.
A client that asks its query through the gateway reads back the response as it is
written, and whatever it gets has the identifier of its query.
-/
theorem relay_end_to_end
    (resolver : ResolverAddress)
    (timeout : Option UInt64)
    (outcomes : Outcomes) :
    let services : Services := { handler := { resolver := resolver }, timeout := timeout }
    (∀ octets, services.handler.Rejects octets →
      services.operations outcomes octets = [] ∧ services.heard? outcomes octets = some []) ∧
    (∀ octets message, ¬services.handler.Rejects octets →
      Codec.wire.decode octets = some message →
      let sent := Exchange.datagrams (services.operations outcomes octets)
      (sent = [] ∨
        ∃ datagram, Codec.wire.encode (message.withId 0) = some datagram ∧ sent = [datagram]) ∧
      (∀ response, outcomes.Answers .wire resolver (message.withId 0) response →
        services.heard? outcomes octets =
          some ((Codec.wire.encode (response.withId message.id)).getD [])) ∧
      (outcomes.WaitsForever .wire timeout resolver (message.withId 0) →
        services.heard? outcomes octets = none) ∧
      ((∀ response, ¬outcomes.Answers .wire resolver (message.withId 0) response) →
        ¬outcomes.WaitsForever .wire timeout resolver (message.withId 0) →
        ∃ nothing, Codec.wire.encode (Message.empty.withId message.id) = some nothing ∧
          services.heard? outcomes octets = some nothing)) ∧
    ∀ query packed received, Codec.wire.encode query = some packed →
      services.heard? outcomes packed = some received →
      let asked := Client.ask .wire (fun sent => (services.heard? outcomes sent).getD []) query
      asked = Client.understand .wire received ∧
      (∀ response, asked = .ok response → response.id = query.id) ∧
      (services.handler.Rejects packed → asked = .error (.invalidMessage "not a message")) ∧
      ∀ message, ¬services.handler.Rejects packed → Codec.wire.decode packed = some message →
        (∀ response, outcomes.Answers .wire resolver (message.withId 0) response →
          let reply? := (Codec.wire.encode (response.withId query.id)).bind Codec.wire.decode
          (∀ reply, reply? = some reply → asked = .ok reply) ∧
          (reply? = none → asked = .error (.invalidMessage "not a message"))) ∧
        ((∀ response, ¬outcomes.Answers .wire resolver (message.withId 0) response) →
          asked = .ok (Message.empty.withId query.id)) := by
  intro services
  refine ⟨?_, ?_, ?_⟩
  · intro octets rejected
    exact Services.heard?_of_rejects outcomes rejected
  · intro octets message accepted decoded sent
    refine ⟨?_, ?_, ?_, ?_⟩
    · exact Services.datagrams_operations outcomes accepted decoded
    · intro response answers
      exact Services.heard?_of_answers accepted decoded answers
    · intro waits
      exact Services.heard?_of_waitsForever accepted decoded waits
    · intro unanswered ends
      have written := Message.encode?_empty_withId message.id
      have heard := Services.heard?_of_unanswered accepted decoded unanswered ends
      exact ⟨_, written, heard.trans (congrArg (fun packed => some (packed.getD [])) written)⟩
  · intro query packed received encoded heard asked
    have understood : asked = Client.understand .wire received :=
      Services.ask_of_heard? rfl encoded heard
    refine ⟨understood, ?_, ?_, ?_⟩
    · intro response succeeded
      exact Services.id_of_ask_of_heard? rfl encoded heard succeeded
    · intro rejected
      have nothing := (Services.heard?_of_rejects outcomes rejected).2
      cases heard.symm.trans nothing
      exact understood.trans Client.understand_nil
    · intro message accepted decoded
      have id : message.id = query.id :=
        Message.id_of_decode_of_encode? encoded (Codec.decode_wire_eq_some_iff.mp decoded)
      refine ⟨?_, ?_⟩
      · intro response answers reply?
        have answered := Services.heard?_of_answers accepted decoded answers
        rw [id] at answered
        cases heard.symm.trans answered
        rw [understood]
        exact ⟨fun _ => Client.understand_getD_of_some, Client.understand_getD_of_none⟩
      · intro unanswered
        -- The stream has come to an end, so the exchange has.
        have ends : ¬outcomes.WaitsForever .wire timeout resolver (message.withId 0) := by
          intro waits
          cases heard.symm.trans (Services.heard?_of_waitsForever accepted decoded waits)
        have answered := Services.heard?_of_unanswered accepted decoded unanswered ends
        rw [id] at answered
        cases heard.symm.trans answered
        exact understood.trans (Client.understand_empty_withId query.id)

/-- The client of a query that is answered with a bare header reads it under its identifier. -/
theorem relay_end_to_end_of_answered_query :
    let resolver : ResolverAddress := .literal default
    let outcomes : Outcomes := {
      lookup := .error "not needed"
      bind := .ok ()
      connect := .ok ()
      send := fun octets => .ok octets.length
      receive := .datagram (List.replicate 12 0) }
    let services : Services := { handler := { resolver := resolver }, timeout := some 5000 }
    services.heard? outcomes (0x12 :: 0x34 :: List.replicate 15 0) =
      some (0x12 :: 0x34 :: List.replicate 10 0) := by
  intro resolver outcomes services
  have decoded : Codec.wire.decode (0x12 :: 0x34 :: List.replicate 15 0) =
      some (Message.empty.withId 0x1234) := by
    decide
  have accepted : ¬services.handler.Rejects (0x12 :: 0x34 :: List.replicate 15 0) := by
    rintro (short | long | undecoded | ⟨decoded', carries⟩)
    · exact absurd short (by decide)
    · exact absurd long (by decide)
    · cases decoded.symm.trans undecoded
    · cases decoded.symm.trans decoded'
      cases carries
  have answers :
      outcomes.Answers .wire resolver ((Message.empty.withId 0x1234).withId 0) .empty := by
    refine ⟨⟨⟨_, _, .literal default⟩, rfl, rfl, List.replicate 12 0, ?_, rfl⟩, _, rfl, ?_⟩
    · decide
    · decide
  have law := relay_end_to_end resolver (some 5000) outcomes
  exact ((law.2.1 _ _ accepted decoded).2.1 _ answers).trans (by decide)

end DnsOverQuic.Gateway
