import DnsOverQuic.Proofs.AddressText
import DnsOverQuic.Resolver

/-!
# Texts of resolver addresses

A text denotes a resolver in one of two ways: as a socket address, or as a host name and
a number.  A socket address is read back from its text.  So is a host name, unless it is
itself a dotted quad.  A dotted quad is taken for a host name only where a plus sign
stands in front of the number, which socket addresses do not have, and this sign is not
shown.
-/

namespace DnsOverQuic.ResolverAddress

open Text

/-! ## What a text denotes -/

/-- The resolver that a text without scheme denotes. -/
inductive Denotes
    (target : List Char) :
    ResolverAddress → Prop where
  | literal
      {address : SocketAddress}
      (read : SocketAddress.read? target = some address) :
      Denotes target (.literal address)
  | named
      {host digits : List Char}
      {number : Nat}
      (noLiteral : SocketAddress.read? target = none)
      (split : target = host ++ ':' :: digits)
      (noColon : ':' ∉ host)
      (noColon' : ':' ∉ digits)
      (accepted : isHost host = true)
      (read : Decimal.readSignedUpTo? 65535 digits = some number) :
      Denotes target (.named host (UInt16.ofNat number))

theorem readNamed?_of_colon
    {host digits : List Char}
    (noColon : ':' ∉ host)
    (noColon' : ':' ∉ digits)
    (accepted : isHost host = true) :
    readNamed? (host ++ ':' :: digits) =
      (Decimal.readSignedUpTo? 65535 digits).map
        (fun number => named host (UInt16.ofNat number)) := by
  rw [readNamed?, splitOn_eq_pair_iff.mpr ⟨rfl, noColon, noColon'⟩]
  exact if_pos accepted

theorem denotes_of_readNamed?
    {target : List Char}
    {resolver : ResolverAddress}
    (noLiteral : SocketAddress.read? target = none)
    (read : readNamed? target = some resolver) :
    Denotes target resolver := by
  unfold readNamed? at read
  split at read
  next host digits parts =>
      rcases splitOn_eq_pair_iff.mp parts with ⟨split, noColon, noColon'⟩
      by_cases accepted : isHost host = true
      · rw [if_pos accepted] at read
        rcases Option.map_eq_some_iff.mp read with ⟨number, readNumber, rfl⟩
        exact .named noLiteral split noColon noColon' accepted readNumber
      · rw [if_neg accepted] at read
        cases read
  next => cases read

/-- A text is read as the resolver that it denotes. -/
theorem read?_eq_some_iff
    {text : List Char}
    {resolver : ResolverAddress} :
    read? text = some resolver ↔ Denotes (withoutScheme text) resolver := by
  cases literal : SocketAddress.read? (withoutScheme text) with
  | some address =>
      have same : read? text = some (.literal address) := by
        simp only [read?, literal]
      rw [same]
      constructor
      · rintro ⟨⟩
        exact .literal literal
      · intro denotes
        cases denotes with
        | literal read => rw [Option.some.inj (literal.symm.trans read)]
        | named noLiteral => cases literal.symm.trans noLiteral
  | none =>
      have same : read? text = readNamed? (withoutScheme text) := by
        simp only [read?, literal]
      rw [same]
      constructor
      · exact denotes_of_readNamed? literal
      · intro denotes
        cases denotes with
        | literal read => cases literal.symm.trans read
        | named _ split noColon noColon' accepted read =>
            rw [split, readNamed?_of_colon noColon noColon' accepted, read]
            rfl

theorem parse_eq_ok_iff
    {text : String}
    {resolver : ResolverAddress} :
    parse text = .ok resolver ↔ Denotes (withoutScheme text.toList) resolver := by
  rw [← read?_eq_some_iff, parse]
  cases read? text.toList <;> simp

/-! ## Socket addresses -/

theorem withoutScheme_of_head?
    {text : List Char}
    (other : text.head? ≠ some 'u') :
    withoutScheme text = text := by
  unfold withoutScheme
  split
  next => exact absurd rfl other
  next => rfl

theorem withoutScheme_scheme
    (text : List Char) :
    withoutScheme ("udp://".toList ++ text) = text :=
  rfl

/-- No scheme stands in front of the text of a socket address. -/
theorem withoutScheme_literal
    (address : SocketAddress) :
    withoutScheme (literal address).text = (literal address).text := by
  apply withoutScheme_of_head?
  cases address with
  | v4 address number =>
      intro begins
      have quad : 'u' ∉ address.text :=
        IPv4.not_mem_text (by decide) (by decide) address
      have digits : 'u' ∉ Decimal.numeral number.toNat :=
        Decimal.not_mem_numeral (by decide) _
      have inside : 'u' ∈ address.text ++ ':' :: Decimal.numeral number.toNat :=
        List.mem_of_head? begins
      simp [quad, digits] at inside
  | v6 address scope number =>
      rintro ⟨⟩

theorem denotes_literal
    (address : SocketAddress) :
    Denotes (literal address).text (literal address) :=
  .literal (SocketAddress.read?_text address)

/--
Every socket address is read back from its text, with or without a scheme in front of
it, so no two have the same text.  The text is the only one that is recommended.
-/
theorem socket_address_reads_back
    (address : SocketAddress) :
    parse (String.ofList (literal address).text) = .ok (literal address) ∧
      parse ("udp://" ++ String.ofList (literal address).text) = .ok (literal address) ∧
      (∀ other : SocketAddress,
        (literal other).text = (literal address).text → other = address) ∧
      ∀ text, address.IsRecommended text ↔ text = (literal address).text := by
  refine ⟨?_, ?_, ?_, fun _ => SocketAddress.isRecommended_iff⟩
  · rw [parse_eq_ok_iff, String.toList_ofList, withoutScheme_literal]
    exact denotes_literal address
  · have scheme : withoutScheme ("udp://" ++ String.ofList (literal address).text).toList =
        (literal address).text := by
      simp only [String.toList_append, String.toList_ofList]
      exact withoutScheme_scheme _
    rw [parse_eq_ok_iff, scheme]
    exact denotes_literal address
  · intro other same
    have read := SocketAddress.read?_text other
    rw [show other.text = address.text from same, SocketAddress.read?_text] at read
    exact (Option.some.inj read).symm

/-! ## Host names -/

theorem head?_ne_of_isHost
    {host : List Char}
    (accepted : isHost host = true)
    (rest : List Char) :
    (host ++ rest).head? ≠ some '[' := by
  cases host with
  | nil => cases accepted
  | cons symbol others =>
      rintro ⟨⟩
      simp [isHost] at accepted

/-- A host and a number are a socket address exactly if the host is a dotted quad. -/
theorem readSocketAddress_of_colon
    {host digits : List Char}
    (noColon : ':' ∉ host)
    (noColon' : ':' ∉ digits)
    (accepted : isHost host = true) :
    SocketAddress.read? (host ++ ':' :: digits) =
      (IPv4.read? host).bind
        (fun address => (SocketAddress.readNumber? digits).map (.v4 address)) := by
  rw [SocketAddress.read?, SocketAddress.readV4?_of_colon noColon noColon',
    SocketAddress.readV6?_of_noBracket (head?_ne_of_isHost accepted _), Option.or_none]

/-- No scheme stands in front of a host name and a number. -/
theorem withoutScheme_named
    {host : List Char}
    (noColon : ':' ∉ host)
    (number : UInt16) :
    withoutScheme (named host number).text = (named host number).text := by
  generalize written : (named host number).text = text
  unfold withoutScheme
  split
  next rest =>
      -- Behind the only colon there would be a slash in front of the digits.
      have same : host ++ ':' :: Decimal.numeral number.toNat =
          "udp".toList ++ ':' :: '/' :: '/' :: rest :=
        written
      have behind := (append_separator_inj noColon (by decide) same).2
      have slash : '/' ∈ Decimal.numeral number.toNat := behind ▸ List.mem_cons_self
      exact absurd slash (Decimal.not_mem_numeral (by decide) _)
  next => rfl

/-- A host name is read back from its text, unless it is a dotted quad. -/
theorem denotes_text_of_named
    {host : List Char}
    (noColon : ':' ∉ host)
    (accepted : isHost host = true)
    (number : UInt16) :
    Denotes (named host number).text
      (match IPv4.read? host with
        | some address => literal (.v4 address number)
        | none => named host number) := by
  have digits : ':' ∉ Decimal.numeral number.toNat :=
    Decimal.not_mem_numeral (by decide) _
  have bound : number.toNat ≤ 65535 := Nat.le_of_lt_succ number.toNat_lt
  have read := readSocketAddress_of_colon noColon digits accepted
  cases quad : IPv4.read? host with
  | some address =>
      rw [quad, SocketAddress.readNumber?_numeral] at read
      exact .literal read
  | none =>
      rw [quad] at read
      have named := Denotes.named read rfl noColon digits accepted
        (Decimal.readSignedUpTo?_numeral bound)
      rwa [UInt16.ofNat_toNat] at named

/-- A host name that is a dotted quad has a number that no socket address has. -/
theorem exists_unsigned
    {digits : List Char}
    {number : Nat}
    (noNumber : SocketAddress.readNumber? digits = none)
    (read : Decimal.readSignedUpTo? 65535 digits = some number) :
    ∃ unsigned, digits = '+' :: unsigned := by
  unfold Decimal.readSignedUpTo? at read
  split at read
  next unsigned => exact ⟨unsigned, rfl⟩
  next =>
      rw [SocketAddress.readNumber?, read] at noNumber
      cases noNumber

theorem readNumber?_signed
    (unsigned : List Char) :
    SocketAddress.readNumber? ('+' :: unsigned) = none := by
  simp [SocketAddress.readNumber?, Decimal.readUpTo?, Decimal.read?]

/-- A text is a dotted quad and a number that a plus sign introduces. -/
def IsSignedQuad
    (target : List Char)
    (address : IPv4) : Prop :=
  ∃ unsigned, target = address.text ++ ':' :: '+' :: unsigned

theorem isHost_quad
    (address : IPv4) :
    isHost address.text = true := by
  have bracket : '[' ∉ address.text :=
    IPv4.not_mem_text (by decide) (by decide) address
  have bracket' : ']' ∉ address.text :=
    IPv4.not_mem_text (by decide) (by decide) address
  have written : address.text ≠ [] := by
    simp [IPv4.text]
  have allowed : address.text.all (fun symbol => symbol ≠ '[' && symbol ≠ ']') = true := by
    rw [List.all_eq_true]
    intro symbol member
    have apart : symbol ≠ '[' := fun same => bracket (same ▸ member)
    have apart' : symbol ≠ ']' := fun same => bracket' (same ▸ member)
    simp [apart, apart']
  simpa [isHost, written] using allowed

/-- Socket addresses have no sign. -/
theorem IsSignedQuad.noLiteral
    {target : List Char}
    {address : IPv4}
    (signed : IsSignedQuad target address) :
    SocketAddress.read? target = none := by
  rcases signed with ⟨unsigned, rfl⟩
  have plain : ':' ∉ address.text :=
    IPv4.not_mem_text (by decide) (by decide) address
  have noBracket : (address.text ++ ':' :: '+' :: unsigned).head? ≠ some '[' :=
    head?_ne_of_isHost (isHost_quad address) _
  rw [SocketAddress.read?, SocketAddress.readV6?_of_noBracket noBracket, Option.or_none,
    SocketAddress.readV4?]
  split
  next host digits parts =>
      rcases splitOn_eq_pair_iff.mp parts with ⟨split, noColon, -⟩
      rw [← (append_separator_inj plain noColon split).2, readNumber?_signed]
      cases IPv4.read? host <;> rfl
  next => rfl

theorem Denotes.exists_number
    {target : List Char}
    {resolver : ResolverAddress}
    {address : IPv4}
    (denotes : Denotes target resolver)
    (signed : IsSignedQuad target address) :
    ∃ number, resolver = .named address.text number := by
  cases denotes with
  | literal read => cases signed.noLiteral.symm.trans read
  | named _ split noColon =>
      rcases signed with ⟨unsigned, same⟩
      have plain : ':' ∉ address.text :=
        IPv4.not_mem_text (by decide) (by decide) address
      have parts := append_separator_inj noColon plain (split.symm.trans same)
      exact ⟨_, congrArg (fun host => ResolverAddress.named host _) parts.1⟩

/-- Where no plus sign is dropped, a text that is shown denotes the same resolver. -/
theorem Denotes.shown
    {target : List Char}
    {resolver : ResolverAddress}
    (denotes : Denotes target resolver)
    (unsigned : ∀ address, ¬IsSignedQuad target address) :
    Denotes (withoutScheme resolver.text) resolver := by
  cases denotes with
  | @literal address read =>
      rw [withoutScheme_literal]
      exact denotes_literal address
  | @named host digits number noLiteral split noColon noColon' accepted read =>
      have shown := denotes_text_of_named noColon accepted (UInt16.ofNat number)
      rw [withoutScheme_named noColon]
      cases quad : IPv4.read? host with
      | none => rwa [quad] at shown
      | some address =>
          rw [split, readSocketAddress_of_colon noColon noColon' accepted, quad] at noLiteral
          have noNumber : SocketAddress.readNumber? digits = none :=
            Option.map_eq_none_iff.mp noLiteral
          rcases exists_unsigned noNumber read with ⟨rest, rfl⟩
          have signed : IsSignedQuad target address :=
            ⟨rest, by rw [split, IPv4.text_of_read? quad]⟩
          exact absurd signed (unsigned address)

/-- A dotted quad with a sign is shown as a socket address. -/
theorem denotes_shown_quad
    (address : IPv4)
    (number : UInt16) :
    Denotes (withoutScheme (named address.text number).text) (literal (.v4 address number)) := by
  have plain : ':' ∉ address.text :=
    IPv4.not_mem_text (by decide) (by decide) address
  have shown := denotes_text_of_named plain (isHost_quad address) number
  rw [withoutScheme_named plain]
  rwa [IPv4.read?_text] at shown

/--
The text that is shown for an accepted text denotes the same resolver, unless the
accepted text is a dotted quad with a plus sign in front of the number.  This is taken
for a host name, and the text that is shown for it denotes a socket address.
-/
theorem accepted_text_reads_back
    {text : String}
    {resolver : ResolverAddress}
    (accepted : parse text = .ok resolver) :
    (parse (String.ofList resolver.text) = .ok resolver ↔
      ∀ address, ¬IsSignedQuad (withoutScheme text.toList) address) ∧
    ∀ address, IsSignedQuad (withoutScheme text.toList) address →
      ∃ number, resolver = named address.text number ∧
        parse (String.ofList resolver.text) = .ok (literal (.v4 address number)) := by
  have denotes := parse_eq_ok_iff.mp accepted
  have signedCase : ∀ address, IsSignedQuad (withoutScheme text.toList) address →
      ∃ number, resolver = named address.text number ∧
        parse (String.ofList resolver.text) = .ok (literal (.v4 address number)) := by
    intro address signed
    rcases denotes.exists_number signed with ⟨number, rfl⟩
    refine ⟨number, rfl, ?_⟩
    rw [parse_eq_ok_iff, String.toList_ofList]
    exact denotes_shown_quad address number
  refine ⟨⟨?_, ?_⟩, signedCase⟩
  · intro same address signed
    rcases signedCase address signed with ⟨number, rfl, literal⟩
    cases same.symm.trans literal
  · intro unsigned
    rw [parse_eq_ok_iff, String.toList_ofList]
    exact denotes.shown unsigned

/-- A host name keeps its meaning when the sign of its number is dropped. -/
theorem accepted_text_reads_back_of_host_name :
    let resolver := named "dns.lan".toList 53
    parse "udp://dns.lan:+053" = .ok resolver ∧
      parse (String.ofList resolver.text) = .ok resolver := by
  intro resolver
  have accepted : parse "udp://dns.lan:+053" = .ok resolver := by
    decide
  refine ⟨accepted, (accepted_text_reads_back accepted).1.mpr ?_⟩
  rintro address ⟨unsigned, same⟩
  have plain : ':' ∉ address.text :=
    IPv4.not_mem_text (by decide) (by decide) address
  have split : "dns.lan".toList ++ ':' :: "+053".toList = address.text ++ ':' :: '+' :: unsigned :=
    same
  have quad := IPv4.read?_text address
  rw [← (append_separator_inj (by decide) plain split).1] at quad
  cases quad

/-- A dotted quad does not: it is a host name only as long as the sign is there. -/
theorem signed_quad_changes_meaning :
    ¬∀ (text : String) (resolver : ResolverAddress),
      parse text = .ok resolver → parse (String.ofList resolver.text) = .ok resolver := by
  intro law
  have accepted : parse "1.1.1.1:+53" = .ok (named "1.1.1.1".toList 53) := by
    decide
  have shown : parse (String.ofList (named "1.1.1.1".toList 53).text) =
      .ok (literal (.v4 ⟨1, 1, 1, 1⟩ 53)) := by
    decide
  cases (law _ _ accepted).symm.trans shown

end DnsOverQuic.ResolverAddress
