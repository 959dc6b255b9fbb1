import DnsOverQuic.Proofs.ResolverText

/-!
# The grammar of resolver addresses

Behind at most one scheme, the text of a resolver is the literal of a socket address, or
a host name and a number on the two sides of its only colon.  Exactly these texts are
accepted, and a text that is both is taken for a socket address.  Everything else is
refused with a message that quotes it whole, its scheme included.
-/

namespace DnsOverQuic

open Text

namespace Text.Decimal

/-- Exactly the numerals up to the limit are read, with one plus sign in front or without. -/
theorem readSignedUpTo?_eq_some_iff
    {limit value : Nat}
    {text : List Char} :
    readSignedUpTo? limit text = some value ↔
      ∃ sign digits, text = sign ++ digits ∧ (sign = [] ∨ sign = ['+']) ∧
        IsNumeral 10 digitValue? value digits ∧ value ≤ limit := by
  constructor
  · intro read
    unfold readSignedUpTo? at read
    split at read
    next digits => exact ⟨['+'], digits, rfl, .inr rfl, readUpTo?_eq_some_iff.mp read⟩
    next => exact ⟨[], text, rfl, .inl rfl, readUpTo?_eq_some_iff.mp read⟩
  · rintro ⟨sign, digits, rfl, rfl | rfl, numeral, bound⟩
    · have plain : '+' ∉ digits := numeral.not_mem (by decide)
      rw [List.nil_append]
      unfold readSignedUpTo?
      split
      next => exact absurd List.mem_cons_self plain
      next => exact readUpTo?_eq_some_iff.mpr ⟨numeral, bound⟩
    · exact readUpTo?_eq_some_iff.mpr ⟨numeral, bound⟩

end Text.Decimal

namespace ResolverAddress

/-! ## The two forms -/

/-- What is left of a text when its scheme is taken off.  Only one is. -/
inductive HasTarget :
    List Char → List Char → Prop where
  | behindScheme
      (target : List Char) :
      HasTarget ("udp://".toList ++ target) target
  | whole
      {text : List Char}
      (noScheme : ¬"udp://".toList <+: text) :
      HasTarget text text

/--
A host name and a number with a colon between them, which is the only colon.  One plus
sign may introduce the number.
-/
inductive IsHostWithNumber
    (host : List Char)
    (number : UInt16) :
    List Char → Prop where
  | colon
      {sign digits : List Char}
      (written : host ≠ [])
      (noColon : ':' ∉ host)
      (noBracket : '[' ∉ host)
      (noBracket' : ']' ∉ host)
      (isSign : sign = [] ∨ sign = ['+'])
      (numeral : IsNumeral 10 Decimal.digitValue? number.toNat digits) :
      IsHostWithNumber host number (host ++ ':' :: (sign ++ digits))

theorem hasTarget_iff
    {text target : List Char} :
    HasTarget text target ↔ target = withoutScheme text := by
  constructor
  · intro hasTarget
    cases hasTarget with
    | behindScheme => rfl
    | whole noScheme =>
        unfold withoutScheme
        split
        next rest => exact absurd (List.prefix_append "udp://".toList rest) noScheme
        next => rfl
  · rintro rfl
    unfold withoutScheme
    split
    next rest => exact .behindScheme rest
    next other =>
        refine .whole ?_
        rintro ⟨rest, same⟩
        exact other rest same.symm

theorem isHost_iff
    {host : List Char} :
    isHost host = true ↔ host ≠ [] ∧ '[' ∉ host ∧ ']' ∉ host := by
  simp only [isHost, Bool.and_eq_true, decide_eq_true_eq, List.all_eq_true]
  grind

/-- Exactly the host names with a number are read as such. -/
theorem readNamed?_eq_some_iff
    {target host : List Char}
    {number : UInt16} :
    readNamed? target = some (.named host number) ↔ IsHostWithNumber host number target := by
  constructor
  · intro read
    unfold readNamed? at read
    split at read
    next host' behind parts =>
        rcases splitOn_eq_pair_iff.mp parts with ⟨rfl, noColon, -⟩
        split at read
        next accepted =>
            rcases Option.map_eq_some_iff.mp read with ⟨value, readBehind, same⟩
            cases same
            rcases Decimal.readSignedUpTo?_eq_some_iff.mp readBehind with
              ⟨sign, digits, rfl, isSign, numeral, bound⟩
            rcases isHost_iff.mp accepted with ⟨written, noBracket, noBracket'⟩
            refine .colon written noColon noBracket noBracket' isSign ?_
            rwa [UInt16.toNat_ofNat_of_lt' (Nat.lt_succ_of_le bound)]
        next => cases read
    next => cases read
  · rintro ⟨written, noColon, noBracket, noBracket', isSign, numeral⟩
    rename_i sign digits
    have bound : number.toNat ≤ 65535 := Nat.le_of_lt_succ number.toNat_lt
    have noColon' : ':' ∉ sign ++ digits := by
      have plain : ':' ∉ digits := numeral.not_mem (by decide)
      rcases isSign with rfl | rfl <;> simp [plain]
    rw [readNamed?_of_colon noColon noColon' (isHost_iff.mpr ⟨written, noBracket, noBracket'⟩),
      Decimal.readSignedUpTo?_eq_some_iff.mpr ⟨sign, digits, rfl, isSign, numeral, bound⟩]
    simp

/-! ## What is accepted -/

section Accepted

variable
    {text : String}
    {target : List Char}
    (hasTarget : HasTarget text.toList target)

include hasTarget

theorem parse_eq_literal_iff
    {address : SocketAddress} :
    parse text = .ok (.literal address) ↔ address.IsLiteral target := by
  rw [parse_eq_ok_iff, ← hasTarget_iff.mp hasTarget, ← SocketAddress.read?_eq_some_iff]
  constructor
  · rintro ⟨⟩
    assumption
  · exact .literal

theorem parse_eq_named_iff
    {host : List Char}
    {number : UInt16} :
    parse text = .ok (.named host number) ↔
      IsHostWithNumber host number target ∧
        ∀ address : SocketAddress, ¬address.IsLiteral target := by
  simp only [← readNamed?_eq_some_iff, ← SocketAddress.read?_eq_some_iff]
  have read : parse text = .ok (.named host number) ↔
      read? text.toList = some (.named host number) := by
    rw [parse]
    cases read? text.toList <;> simp
  rw [read, read?, ← hasTarget_iff.mp hasTarget]
  cases SocketAddress.read? target <;> simp

/-- Exactly the texts of the two forms are accepted. -/
theorem exists_parse_eq_ok_iff :
    (∃ resolver, parse text = .ok resolver) ↔
      (∃ address : SocketAddress, address.IsLiteral target) ∨
        ∃ host number, IsHostWithNumber host number target := by
  constructor
  · rintro ⟨resolver, accepted⟩
    cases resolver with
    | literal address => exact .inl ⟨address, (parse_eq_literal_iff hasTarget).mp accepted⟩
    | named host number =>
        exact .inr ⟨host, number, ((parse_eq_named_iff hasTarget).mp accepted).1⟩
  · intro form
    by_cases literal : ∃ address : SocketAddress, address.IsLiteral target
    · rcases literal with ⟨address, isLiteral⟩
      exact ⟨_, (parse_eq_literal_iff hasTarget).mpr isLiteral⟩
    · rcases form.resolve_left literal with ⟨host, number, isHost⟩
      exact ⟨_, (parse_eq_named_iff hasTarget).mpr
        ⟨isHost, fun address isLiteral => literal ⟨address, isLiteral⟩⟩⟩

/-- What has neither of the two forms is refused, with a message that quotes the text. -/
theorem parse_eq_error_iff :
    parse text = .error (complaint text) ↔
      (∀ address : SocketAddress, ¬address.IsLiteral target) ∧
        ∀ host number, ¬IsHostWithNumber host number target := by
  have neither : ((∀ address : SocketAddress, ¬address.IsLiteral target) ∧
      ∀ host number, ¬IsHostWithNumber host number target) ↔
        ¬∃ resolver, parse text = .ok resolver := by
    rw [exists_parse_eq_ok_iff hasTarget]
    simp only [not_or, not_exists]
  rw [neither, parse]
  cases read? text.toList <;> simp

end Accepted

/-- What begins with a scheme has neither of the two forms, so one scheme is all. -/
theorem not_isLiteral_scheme
    (rest : List Char)
    (address : SocketAddress) :
    ¬address.IsLiteral ("udp://".toList ++ rest) := by
  intro literal
  generalize whole : "udp://".toList ++ rest = target at literal
  cases literal with
  | @v4 address number host digits isQuad numeral =>
      have inHost : 'u' ∉ host := by
        rw [IPv4.isQuad_iff.mp isQuad]
        exact IPv4.not_mem_text (by decide) (by decide) address
      have inDigits : 'u' ∉ digits := numeral.not_mem (by decide)
      have inside : 'u' ∈ host ++ ':' :: digits := whole ▸ List.mem_cons_self
      simp [inHost, inDigits] at inside
  | v6 => exact absurd (List.cons.inj whole).1 (by decide)

theorem not_isHostWithNumber_scheme
    (rest host : List Char)
    (number : UInt16) :
    ¬IsHostWithNumber host number ("udp://".toList ++ rest) := by
  intro isHost
  generalize whole : "udp://".toList ++ rest = target at isHost
  cases isHost with
  | @colon sign digits written noColon noBracket noBracket' isSign numeral =>
      have split : "udp".toList ++ ':' :: ("//".toList ++ rest) = host ++ ':' :: (sign ++ digits) :=
        whole
      have slash : '/' ∈ sign ++ digits := by
        rw [← (append_separator_inj (by decide) noColon split).2]
        exact List.mem_cons_self
      have plain : '/' ∉ digits := numeral.not_mem (by decide)
      rcases isSign with rfl | rfl <;> simp [plain] at slash

theorem hasTarget_of_isLiteral
    {text : List Char}
    {address : SocketAddress}
    (literal : address.IsLiteral text) :
    HasTarget text text := by
  refine .whole ?_
  rintro ⟨rest, rfl⟩
  exact not_isLiteral_scheme rest address literal

theorem hasTarget_of_isHostWithNumber
    {text host : List Char}
    {number : UInt16}
    (isHost : IsHostWithNumber host number text) :
    HasTarget text text := by
  refine .whole ?_
  rintro ⟨rest, rfl⟩
  exact not_isHostWithNumber_scheme rest host number isHost

/--
Behind at most one scheme, exactly the literals of socket addresses and the host names
with a number are accepted.  A literal is a socket address, and a host name with a number
that is no literal is kept as it is.  Every other text is refused with a message that
quotes the text, and so is every text with two schemes.
-/
theorem parse_by_grammar
    (text : String) :
    ∃ target, HasTarget text.toList target ∧
      ((∃ resolver, parse text = .ok resolver) ↔
        (∃ address : SocketAddress, address.IsLiteral target) ∨
          ∃ host number, IsHostWithNumber host number target) ∧
      (∀ address, parse text = .ok (.literal address) ↔ address.IsLiteral target) ∧
      (∀ host number, parse text = .ok (.named host number) ↔
        IsHostWithNumber host number target ∧
          ∀ address : SocketAddress, ¬address.IsLiteral target) ∧
      (parse text = .error ("upstream '" ++ text ++
          "' is not of the form host:port (optionally prefixed with udp://)") ↔
        (∀ address : SocketAddress, ¬address.IsLiteral target) ∧
          ∀ host number, ¬IsHostWithNumber host number target) ∧
      (¬"udp://".toList <+: text.toList →
        ∀ resolver, parse text = .ok resolver → parse ("udp://" ++ text) = .ok resolver) ∧
      parse ("udp://udp://" ++ text) = .error ("upstream '" ++ ("udp://udp://" ++ text) ++
        "' is not of the form host:port (optionally prefixed with udp://)") := by
  have hasTarget : HasTarget text.toList (withoutScheme text.toList) :=
    hasTarget_iff.mpr rfl
  have behind (rest : String) : HasTarget ("udp://" ++ rest).toList rest.toList := by
    rw [String.toList_append]
    exact .behindScheme rest.toList
  refine ⟨withoutScheme text.toList, hasTarget, exists_parse_eq_ok_iff hasTarget,
    fun _ => parse_eq_literal_iff hasTarget, fun _ _ => parse_eq_named_iff hasTarget,
    parse_eq_error_iff hasTarget, ?_, ?_⟩
  · intro noScheme resolver accepted
    have same : text.toList = withoutScheme text.toList :=
      hasTarget_iff.mp (.whole noScheme)
    rw [parse_eq_ok_iff, ← same] at accepted
    rwa [parse_eq_ok_iff, ← hasTarget_iff.mp (behind text)]
  · have twice : "udp://udp://" ++ text = "udp://" ++ ("udp://" ++ text) := by
      rw [← String.append_assoc]
      rfl
    rw [twice]
    apply (parse_eq_error_iff (behind ("udp://" ++ text))).mpr
    rw [String.toList_append]
    exact ⟨not_isLiteral_scheme text.toList, not_isHostWithNumber_scheme text.toList⟩

end ResolverAddress

end DnsOverQuic
