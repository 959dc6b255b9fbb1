import DnsOverQuic.Client.Destination
import DnsOverQuic.Proofs.ResolverGrammar

/-!
# Spellings of a server

A client names its server by an IP address, by a socket address, or by a host name, with
a number or without, with a scheme or without.  Three readers share these texts.  Where
they overlap they agree: all spellings of a server lead to the same address, to the same
name that the certificate must be for, and to the same lookups.

A text with one colon is never the literal of an IP address, so a host with a number is
never taken for an IPv6 address.
-/

namespace DnsOverQuic.Client

open Text

/-! ## Lookups under observation -/

/-- A lookup, with a record of the names and numbers that were asked for. -/
def recorded
    (find : Lookup) :
    LookupAction (StateM (List (List Char × UInt16))) :=
  fun host number => do
    modify (· ++ [(host, number)])
    return find host number

/-- What comes of finding the server that a text names, and the lookups that are made. -/
def observe
    (find : Lookup)
    (server : String) :
    Except Failure (SocketAddress × List Char) × List (List Char × UInt16) :=
  (findServer (recorded find) server).run []

variable
    (find : Lookup)
    {server : String}

theorem observe_of_error
    {failure : Failure}
    (named : Destination.ofText server = .error failure) :
    observe find server = (.error failure, []) := by
  rw [observe, findServer, named]
  rfl

theorem observe_of_fixed
    {address : SocketAddress}
    (named : Destination.ofText server = .ok (.fixed address)) :
    observe find server = (.ok (address, address.ip.text), []) := by
  rw [observe, findServer, named]
  rfl

/--
A server is found by looking up a host with a number once, and nothing else.  The first
address is where the client connects, whatever other addresses there are, and the host is
the name that the certificate must be for.
-/
structure IsLookedUp
    (server : String)
    (host : List Char)
    (number : UInt16) : Prop where
  first : ∀ address others, find host number = .ok (address :: others) →
    observe find server = (.ok (address, host), [(host, number)])
  empty : find host number = .ok [] →
    observe find server =
      (.error (.connect server "lookup returned no addresses"), [(host, number)])
  failed : ∀ reason, find host number = .error reason →
    observe find server =
      (.error (.connect server ("lookup failed: " ++ reason)), [(host, number)])

theorem isLookedUp_of_named
    {host : List Char}
    {number : UInt16}
    (named : Destination.ofText server = .ok (.named host number)) :
    IsLookedUp find server host number := by
  have observed : observe find server =
      (Destination.firstFound server host (find host number), [(host, number)]) := by
    rw [observe, findServer, named]
    rfl
  exact {
    first := fun address others found => by rw [observed, found]; rfl
    empty := fun found => by rw [observed, found]; rfl
    failed := fun reason found => by rw [observed, found]; rfl }

/-- Observation changes nothing about what is found. -/
theorem fst_observe
    (server : String) :
    (observe find server).1 = resolveServer find server := by
  rw [observe, findServer, resolveServer, findServer]
  cases Destination.ofText server with
  | error failure => rfl
  | ok destination => cases destination <;> rfl

/-! ## What a text names -/

theorem ofText_of_ip
    {ip : IPAddress}
    (literal : ip.IsLiteral server.toList) :
    Destination.ofText server = .ok (.fixed (.ofIP ip 784)) := by
  rw [Destination.ofText, IPAddress.read?_eq_some_iff.mpr literal]
  rfl

section NoAddress

variable
    (noAddress : ∀ ip : IPAddress, ¬ip.IsLiteral server.toList)

include noAddress

theorem read?_of_noAddress :
    IPAddress.read? server.toList = none := by
  rw [Option.eq_none_iff_forall_ne_some]
  exact fun ip read => noAddress ip (IPAddress.read?_eq_some_iff.mp read)

theorem ofText_of_bare
    (noColon : ':' ∉ server.toList) :
    Destination.ofText server = .ok (.named server.toList 784) := by
  rw [Destination.ofText, read?_of_noAddress noAddress]
  exact if_neg noColon

/-- A text with a colon names the resolver that it is read as. -/
theorem ofText_of_colon
    (colon : ':' ∈ server.toList) :
    Destination.ofText server =
      match ResolverAddress.parse server with
      | .ok resolver => .ok (.ofResolver resolver)
      | .error complaint => .error (.connect server complaint) := by
  rw [Destination.ofText, read?_of_noAddress noAddress]
  exact if_pos colon

variable
    (colon : ':' ∈ server.toList)

include colon

theorem observe_of_complaint
    {complaint : String}
    (read : ResolverAddress.parse server = .error complaint) :
    observe find server = (.error (.connect server complaint), []) :=
  observe_of_error find (by rw [ofText_of_colon noAddress colon, read])

theorem observe_of_literal
    {socket : SocketAddress}
    (read : ResolverAddress.parse server = .ok (.literal socket)) :
    observe find server = (.ok (socket, socket.ip.text), []) :=
  observe_of_fixed find (by rw [ofText_of_colon noAddress colon, read]; rfl)

theorem isLookedUp_of_parse
    {host : List Char}
    {number : UInt16}
    (read : ResolverAddress.parse server = .ok (.named host number)) :
    IsLookedUp find server host number :=
  isLookedUp_of_named find (by rw [ofText_of_colon noAddress colon, read]; rfl)

end NoAddress

/-! ## Texts with a number -/

section Number

variable
    {text host : List Char}
    {number : UInt16}
    {socket : SocketAddress}

/-- A socket address is no literal of an IP address. -/
theorem not_isLiteral_of_isLiteral
    (literal : socket.IsLiteral text)
    (ip : IPAddress) :
    ¬ip.IsLiteral text := by
  intro ipLiteral
  cases literal with
  | v4 isQuad numeral =>
      have one := ipLiteral.count_ne_one
      rw [List.count_append, List.count_cons_self,
        List.count_eq_zero_of_not_mem (isQuad.not_mem (by decide) (by decide)),
        List.count_eq_zero_of_not_mem (numeral.not_mem (by decide))] at one
      exact one rfl
  | v6 => exact ipLiteral.not_mem (by decide) (by decide) (by decide) List.mem_cons_self

/-- Neither is a host name with a number. -/
theorem not_isLiteral_of_isHostWithNumber
    (isHost : ResolverAddress.IsHostWithNumber host number text)
    (ip : IPAddress) :
    ¬ip.IsLiteral text := by
  intro ipLiteral
  cases isHost with
  | @colon sign digits _ noColon _ _ isSign numeral =>
      have plain : ':' ∉ digits := numeral.not_mem (by decide)
      refine ipLiteral.count_ne_one ?_
      rcases isSign with rfl | rfl <;>
        simp [List.count_eq_zero_of_not_mem noColon, List.count_eq_zero_of_not_mem plain]

end Number

/-- A scheme in front of a text makes no literal of an IP address of it. -/
theorem not_isLiteral_of_hasTarget
    {text target : List Char}
    (hasTarget : ResolverAddress.HasTarget text target)
    (noAddress : ∀ ip : IPAddress, ¬ip.IsLiteral target)
    (ip : IPAddress) :
    ¬ip.IsLiteral text := by
  cases hasTarget with
  | behindScheme =>
      intro literal
      have noLetter : 'u' ∉ "udp://".toList ++ target :=
        literal.not_mem (by decide) (by decide) (by decide)
      exact noLetter List.mem_cons_self
  | whole => exact noAddress ip

theorem colon_mem_of_hasTarget
    {text target : List Char}
    (hasTarget : ResolverAddress.HasTarget text target)
    (colon : ':' ∈ target) :
    ':' ∈ text := by
  cases hasTarget with
  | behindScheme => exact List.mem_append_right _ colon
  | whole => exact colon

section Target

variable
    {target : List Char}
    (hasTarget : ResolverAddress.HasTarget server.toList target)

include hasTarget

/-- A socket address is where the client connects, and no name is looked up. -/
theorem observe_of_isLiteral
    {socket : SocketAddress}
    (literal : socket.IsLiteral target) :
    observe find server = (.ok (socket, socket.ip.text), []) := by
  have colon : ':' ∈ target := by
    cases literal <;> simp
  exact observe_of_literal find
    (not_isLiteral_of_hasTarget hasTarget (not_isLiteral_of_isLiteral literal))
    (colon_mem_of_hasTarget hasTarget colon)
    ((ResolverAddress.parse_eq_literal_iff hasTarget).mpr literal)

/-- A host name with a number is looked up once, with this number. -/
theorem isLookedUp_of_isHostWithNumber
    {host : List Char}
    {number : UInt16}
    (isHost : ResolverAddress.IsHostWithNumber host number target)
    (noSocket : ∀ socket : SocketAddress, ¬socket.IsLiteral target) :
    IsLookedUp find server host number := by
  have colon : ':' ∈ target := by
    cases isHost
    simp
  exact isLookedUp_of_parse find
    (not_isLiteral_of_hasTarget hasTarget (not_isLiteral_of_isHostWithNumber isHost))
    (colon_mem_of_hasTarget hasTarget colon)
    ((ResolverAddress.parse_eq_named_iff hasTarget).mpr ⟨isHost, noSocket⟩)

end Target

/-- A host name with a number is no socket address, unless the host is an address. -/
theorem not_isLiteral_named
    {host : List Char}
    (noAddress : ∀ ip : IPAddress, ¬ip.IsLiteral host)
    (noBracket : '[' ∉ host)
    (number : UInt16)
    (socket : SocketAddress) :
    ¬socket.IsLiteral (host ++ ':' :: Decimal.numeral number.toNat) := by
  intro literal
  rcases SocketAddress.isLiteral_behind_iff.mp literal with
    ⟨address, -, isQuad⟩ | ⟨address, scope, inside, -, rfl, -⟩
  · exact noAddress (.v4 address) (.v4 isQuad)
  · exact noBracket List.mem_cons_self

/--
All spellings of a server agree.  An address is found without a lookup, whether the text
has a number or not, brackets or not, and a scheme or not, and the name for the
certificate is the text of the address.  A host name is looked up once with the default
number, whether the text says the number or not; the first address is found, and the host
is the name for the certificate.  Any other text with a colon is read as the address of a
resolver: what is no such address is complained about, a socket address is found as it is,
and a host with a number is looked up.
-/
theorem spellings_agree
    (find : Lookup) :
    (∀ server, (observe find server).1 = resolveServer find server) ∧
    (∀ (ip : IPAddress) (number : UInt16),
      let socket := String.ofList (SocketAddress.ofIP ip number).text
      observe find (String.ofList ip.text) = (.ok (.ofIP ip 784, ip.text), []) ∧
      observe find socket = (.ok (.ofIP ip number, ip.text), []) ∧
      observe find ("udp://" ++ socket) = (.ok (.ofIP ip number, ip.text), []) ∧
      IPAddress.read? ip.text = some ip) ∧
    (∀ host : String,
      host.toList ≠ [] → ':' ∉ host.toList → '[' ∉ host.toList → ']' ∉ host.toList →
      (∀ ip : IPAddress, ¬ip.IsLiteral host.toList) →
      ∀ server ∈ [host, host ++ ":784", "udp://" ++ (host ++ ":784")],
        IsLookedUp find server host.toList 784) ∧
    ∀ server : String,
      ':' ∈ server.toList → (∀ ip : IPAddress, ¬ip.IsLiteral server.toList) →
        (∀ complaint, ResolverAddress.parse server = .error complaint →
          observe find server = (.error (.connect server complaint), [])) ∧
        (∀ socket, ResolverAddress.parse server = .ok (.literal socket) →
          observe find server = (.ok (socket, socket.ip.text), [])) ∧
        ∀ host number, ResolverAddress.parse server = .ok (.named host number) →
          IsLookedUp find server host number := by
  have behind (target : String) :
      ResolverAddress.HasTarget ("udp://" ++ target).toList target.toList := by
    rw [String.toList_append]
    exact .behindScheme target.toList
  refine ⟨fst_observe find, ?_, ?_, fun server colon noAddress =>
    ⟨fun _ => observe_of_complaint find noAddress colon,
      fun _ => observe_of_literal find noAddress colon,
      fun _ _ => isLookedUp_of_parse find noAddress colon⟩⟩
  · intro ip number socket
    have literal : (SocketAddress.ofIP ip number).IsLiteral socket.toList := by
      rw [String.toList_ofList]
      exact SocketAddress.isLiteral_text _
    have same : (SocketAddress.ofIP ip number).ip = ip := by
      cases ip <;> rfl
    refine ⟨?_, ?_, ?_, IPAddress.read?_eq_some_iff.mpr ip.isLiteral_text⟩
    · have named : Destination.ofText (String.ofList ip.text) = .ok (.fixed (.ofIP ip 784)) :=
        ofText_of_ip (by rw [String.toList_ofList]; exact ip.isLiteral_text)
      rw [observe_of_fixed find named]
      cases ip <;> rfl
    · rw [observe_of_isLiteral find (ResolverAddress.hasTarget_of_isLiteral literal) literal, same]
    · rw [observe_of_isLiteral find (behind socket) literal, same]
  · intro host written noColon noBracket noBracket' noAddress server spelled
    have text : (host ++ ":784").toList = host.toList ++ ':' :: Decimal.numeral 784 := by
      rw [String.toList_append]
      rfl
    have isHost : ResolverAddress.IsHostWithNumber host.toList 784 (host ++ ":784").toList := by
      rw [text, ← List.nil_append (Decimal.numeral 784)]
      exact .colon written noColon noBracket noBracket' (.inl rfl) (Decimal.isNumeral_numeral 784)
    have noSocket (socket : SocketAddress) : ¬socket.IsLiteral (host ++ ":784").toList := by
      rw [text]
      exact not_isLiteral_named noAddress noBracket 784 socket
    simp only [List.mem_cons, List.not_mem_nil, or_false] at spelled
    rcases spelled with rfl | rfl | rfl
    · exact isLookedUp_of_named find (ofText_of_bare noAddress noColon)
    · exact isLookedUp_of_isHostWithNumber find
        (ResolverAddress.hasTarget_of_isHostWithNumber isHost) isHost noSocket
    · exact isLookedUp_of_isHostWithNumber find (behind _) isHost noSocket

/-- Of two addresses that a name stands for the first is found, and the name is kept. -/
theorem spellings_agree_on_name :
    let first : SocketAddress := .v4 ⟨94, 140, 14, 14⟩ 784
    let second : SocketAddress := .v4 ⟨94, 140, 15, 15⟩ 784
    let name := "dns.example.com"
    let find : Lookup := fun host number =>
      if (host, number) = (name.toList, 784) then .ok [first, second] else .error "no such host"
    observe find ("udp://" ++ (name ++ ":784")) =
      (.ok (first, name.toList), [(name.toList, 784)]) := by
  intro first second name find
  have noAddress (ip : IPAddress) : ¬ip.IsLiteral name.toList := by
    intro literal
    have unread : IPAddress.read? name.toList = none := by
      decide +kernel
    cases unread.symm.trans (IPAddress.read?_eq_some_iff.mpr literal)
  have lookedUp := (spellings_agree find).2.2.1 name (by decide) (by decide) (by decide)
    (by decide) noAddress ("udp://" ++ (name ++ ":784")) (by simp)
  exact lookedUp.first first [second] (if_pos rfl)

end DnsOverQuic.Client
