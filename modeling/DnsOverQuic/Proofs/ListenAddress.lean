import DnsOverQuic.Gateway.Services
import DnsOverQuic.Proofs.AddressText

/-!
# Addresses to listen on

A bind address and a number are put together to the text of a socket address, which is
then read.  The bind address is any text, so it could hold a number or brackets of its
own.  It is never understood as more than a host: the text is read exactly if the bind
address is the literal of an IP address, with a scope and in brackets where it is IPv6,
and then the number is the configured one.

What follows the last bracket or colon contains none, so the place where the number was
put is found again whatever the bind address contains.
-/

namespace DnsOverQuic

open Text

namespace SocketAddress

/-- The socket address that a bind address and a number denote. -/
inductive IsBound
    (host : List Char)
    (number : UInt16) :
    SocketAddress → Prop where
  | v4
      {address : IPv4}
      (isQuad : address.IsQuad host) :
      IsBound host number (.v4 address number)
  | v6
      {address : IPv6}
      {scope : UInt32}
      (isScoped : IsScoped address scope host) :
      IsBound host number (.v6 address scope number)
  | bracketed
      {address : IPv6}
      {scope : UInt32}
      {inside : List Char}
      (isScoped : IsScoped address scope inside)
      (brackets : host = '[' :: (inside ++ [']'])) :
      IsBound host number (.v6 address scope number)

theorem IsBound.portNumber
    {host : List Char}
    {number : UInt16}
    {socket : SocketAddress}
    (isBound : IsBound host number socket) :
    socket.portNumber = number := by
  cases isBound <;> rfl

/-- A host that is put into brackets is read as what stands in them, and as nothing else. -/
theorem isLiteral_bracketed_iff
    {host : List Char}
    {number : UInt16}
    {socket : SocketAddress} :
    socket.IsLiteral ('[' :: (host ++ [']']) ++ ':' :: Decimal.numeral number.toNat) ↔
      ∃ address scope, socket = .v6 address scope number ∧ IsScoped address scope host := by
  rw [isLiteral_behind_iff]
  constructor
  · rintro (⟨address, -, isQuad⟩ | ⟨address, scope, inside, rfl, same, isScoped⟩)
    · have bracket : '[' ∈ address.text := by
        rw [← IPv4.isQuad_iff.mp isQuad]
        exact List.mem_cons_self
      exact absurd bracket (IPv4.not_mem_text (by decide) (by decide) address)
    · rw [List.append_cancel_right (List.cons.inj same).2]
      exact ⟨address, scope, rfl, isScoped⟩
  · rintro ⟨address, scope, rfl, isScoped⟩
    exact .inr ⟨address, scope, host, rfl, rfl, isScoped⟩

/--
The text to listen on is read exactly if the bind address is a host, and then with the
number that stands beside it.
-/
theorem read?_listenText_iff
    {host : List Char}
    {number : UInt16}
    {socket : SocketAddress} :
    read? (listenText host number) = some socket ↔ IsBound host number socket := by
  rw [read?_eq_some_iff, listenText]
  split
  next bare =>
      have written : '[' :: host ++ "]:".toList ++ Decimal.numeral number.toNat =
          '[' :: (host ++ [']']) ++ ':' :: Decimal.numeral number.toNat := by
        simp
      rw [written, isLiteral_bracketed_iff]
      constructor
      · rintro ⟨address, scope, rfl, isScoped⟩
        exact .v6 isScoped
      · intro isBound
        cases isBound with
        | @v4 address isQuad =>
            rw [IPv4.isQuad_iff.mp isQuad] at bare
            exact absurd bare.1 (IPv4.not_mem_text (by decide) (by decide) address)
        | v6 isScoped => exact ⟨_, _, rfl, isScoped⟩
        | bracketed _ brackets => exact absurd (by rw [brackets]; rfl) bare.2
  next open' =>
      rw [isLiteral_behind_iff]
      constructor
      · rintro (⟨address, rfl, isQuad⟩ | ⟨address, scope, inside, rfl, brackets, isScoped⟩)
        · exact .v4 isQuad
        · exact .bracketed isScoped brackets
      · intro isBound
        cases isBound with
        | v4 isQuad => exact .inl ⟨_, rfl, isQuad⟩
        | v6 isScoped =>
            have noBracket : '[' ∉ host :=
              isScoped.not_mem (by decide) (by decide) (by decide) (by decide)
            exact absurd ⟨isScoped.colon_mem, fun begins => noBracket (List.mem_of_head? begins)⟩
              open'
        | bracketed isScoped brackets => exact .inr ⟨_, _, _, rfl, brackets, isScoped⟩

/-- A number within the bind address does not take the place of the configured one. -/
example : read? (listenText "::1]:53".toList 784) = none := by
  decide

end SocketAddress

namespace Gateway.Listener

theorem prepare_of_unread
    (files : Files)
    {settings : Settings}
    (unread : SocketAddress.read? settings.server.listenAddress = none) :
    prepare files settings =
      .error (.listenAddress (String.ofList settings.server.listenAddress)) := by
  rw [prepare, unread]

/-- Once the address is read, only the identity can fail, and the address is kept. -/
theorem prepare_of_read
    (files : Files)
    {settings : Settings}
    {socket : SocketAddress}
    (read : SocketAddress.read? settings.server.listenAddress = some socket) :
    (∃ failure, prepare files settings = .error (.identity failure)) ∨
      ∃ listener, prepare files settings = .ok listener ∧ listener.address = socket := by
  rw [prepare, read]
  dsimp only
  cases Identity.load files settings.identity with
  | error failure => exact .inl ⟨failure, rfl⟩
  | ok identity =>
      cases announced : Identity.announce settings.server.announcement identity with
      | error failure =>
          refine .inl ⟨failure, ?_⟩
          simp [withIdentity, Except.mapError, announced, bind, Except.bind]
      | ok identifiers =>
          refine .inr ⟨⟨socket, identity, identifiers⟩, ?_, rfl⟩
          simp [withIdentity, Except.mapError, announced, bind, Except.bind, pure, Except.pure]

/--
A bind address is read exactly if it is a host, and the number is always the configured
one.  So the gateway listens where its settings say, or else it does not start: a bind
address that is no host, whatever number or brackets it holds, is reported.
-/
theorem listens_only_where_configured
    (files : Files)
    (settings : Settings) :
    let server := settings.server
    let metrics := settings.metrics
    (∀ socket, SocketAddress.read? server.listenAddress = some socket ↔
      SocketAddress.IsBound server.bindAddress.toList server.portNumber socket) ∧
    (∀ socket, SocketAddress.read? metrics.listenAddress = some socket ↔
      SocketAddress.IsBound metrics.bindAddress.toList metrics.portNumber socket) ∧
    (∀ host number socket, SocketAddress.IsBound host number socket →
      socket.portNumber = number) ∧
    (∀ listener, prepare files settings = .ok listener →
      SocketAddress.IsBound server.bindAddress.toList server.portNumber listener.address) ∧
    (prepare files settings = .error (.listenAddress (String.ofList server.listenAddress)) ↔
      ∀ socket, ¬SocketAddress.IsBound server.bindAddress.toList server.portNumber socket) ∧
    (StartFault.listenAddress (String.ofList server.listenAddress)).messages.head? =
      some ("Invalid listen address " ++ String.ofList server.listenAddress) := by
  intro server metrics
  have bound (socket : SocketAddress) : SocketAddress.read? server.listenAddress = some socket ↔
      SocketAddress.IsBound server.bindAddress.toList server.portNumber socket :=
    SocketAddress.read?_listenText_iff
  refine ⟨bound, fun _ => SocketAddress.read?_listenText_iff,
    fun _ _ _ isBound => isBound.portNumber, ?_, ⟨?_, ?_⟩, rfl⟩
  · intro listener prepared
    cases read : SocketAddress.read? server.listenAddress with
    | none => cases (prepare_of_unread files read).symm.trans prepared
    | some socket =>
        rcases prepare_of_read files read with ⟨failure, failed⟩ | ⟨found, ready, same⟩
        · cases failed.symm.trans prepared
        · cases ready.symm.trans prepared
          exact (bound listener.address).mp (same ▸ read)
  · intro refused socket isBound
    rcases prepare_of_read files ((bound socket).mpr isBound) with
      ⟨failure, failed⟩ | ⟨found, ready, -⟩
    · cases failed.symm.trans refused
    · cases ready.symm.trans refused
  · intro unbound
    cases read : SocketAddress.read? server.listenAddress with
    | none => exact prepare_of_unread files read
    | some socket => exact absurd ((bound socket).mp read) (unbound socket)

end Gateway.Listener

end DnsOverQuic
