import DnsOverQuic.Proofs.AddressGrammar
import DnsOverQuic.Proofs.MessageHeader

/-!
# Texts of addresses

Every address is read back from its text, and the text of an IPv6 address has the
recommended form: of the runs of zero groups the first longest one is left out if it has
at least two groups, and an address that embeds an IPv4 address ends in its dotted quad.

The readers accept exactly the literals of addresses.  So it suffices that the text of an
address is a literal for it, which holds of its parts: the numerals of groups are fields,
and what a gap leaves out are zero groups.
-/

namespace DnsOverQuic

open Text

namespace IPv6

/-! ## Groups -/

theorem isField_numeral
    (group : UInt16) :
    IsField group (Hexadecimal.numeral group.toNat) where
  numeral := Hexadecimal.isNumeral_numeral group.toNat
  short := Hexadecimal.length_numeral_le group

theorem forall₂_numerals
    (groups : List UInt16) :
    List.Forall₂ IsField groups
      (groups.map (fun group => Hexadecimal.numeral group.toNat)) := by
  rw [List.forall₂_map_right_iff, List.forall₂_same]
  exact fun group _ => isField_numeral group

theorem spells_of_forall₂
    {groups : List UInt16}
    {fields : List (List Char)}
    (areFields : List.Forall₂ IsField groups fields) :
    Spells fields groups := by
  induction areFields with
  | nil => exact .nil
  | cons first _ ih => exact .field first ih

theorem groupsOfIPv4_ipv4OfGroups
    (high low : UInt16) :
    groupsOfIPv4 (ipv4OfGroups high low) = [high, low] := by
  simp only [groupsOfIPv4, ipv4OfGroups, Octets.toUInt16_ofUInt16]

/-- The dotted quad of an IPv4 address spells the two groups that embed it. -/
theorem spells_quad
    (high low : UInt16) :
    Spells [(ipv4OfGroups high low).text] [high, low] := by
  have spelled : Spells [(ipv4OfGroups high low).text] _ :=
    .quad (IPv4.isQuad_iff.mpr rfl)
  rwa [groupsOfIPv4_ipv4OfGroups] at spelled

/-! ## The recommended form -/

/-- The first longest run of zero groups, with the groups before and after it. -/
structure IsFirstLongestRun
    (groups before : List UInt16)
    (length : Nat)
    (after : List UInt16) : Prop where
  split : groups = before ++ (List.replicate length 0 ++ after)
  longest :
    ∀ {before' after' : List UInt16} {length' : Nat},
      groups = before' ++ (List.replicate length' 0 ++ after') → length' ≤ length
  first :
    ∀ {before' after' : List UInt16},
      groups = before' ++ (List.replicate length 0 ++ after') → before.length ≤ before'.length

/-- There is only one first longest run. -/
theorem IsFirstLongestRun.unique
    {groups before before' after after' : List UInt16}
    {length length' : Nat}
    (run : IsFirstLongestRun groups before length after)
    (run' : IsFirstLongestRun groups before' length' after') :
    before = before' ∧ length = length' ∧ after = after' := by
  have sameLength : length = length' :=
    Nat.le_antisymm (run'.longest run.split) (run.longest run'.split)
  subst sameLength
  have samePlace : before.length = before'.length :=
    Nat.le_antisymm (run.first run'.split) (run'.first run.split)
  rcases List.append_inj (run.split.symm.trans run'.split) samePlace with ⟨sameBefore, rest⟩
  exact ⟨sameBefore, rfl, List.append_cancel_left rest⟩

theorem zeroRun_cons
    (group : UInt16)
    (rest : List UInt16) :
    zeroRun (group :: rest) = if group = 0 then zeroRun rest + 1 else 0 := by
  by_cases zero : group = 0 <;> simp [zeroRun, zero]

theorem exists_rest_of_zeroRun
    (groups : List UInt16) :
    ∃ after, groups = List.replicate (zeroRun groups) 0 ++ after := by
  induction groups with
  | nil => exact ⟨[], rfl⟩
  | cons group rest ih =>
      by_cases zero : group = 0
      · rcases ih with ⟨after, split⟩
        refine ⟨after, ?_⟩
        rw [zeroRun_cons, if_pos zero, List.replicate_succ, List.cons_append, ← split, zero]
      · exact ⟨group :: rest, by rw [zeroRun_cons, if_neg zero]; rfl⟩

/-- No run of zero groups at the front is longer. -/
theorem le_zeroRun
    {groups after : List UInt16}
    {length : Nat}
    (split : groups = List.replicate length 0 ++ after) :
    length ≤ zeroRun groups := by
  induction length generalizing groups with
  | zero => exact Nat.zero_le _
  | succ length ih =>
      rw [List.replicate_succ, List.cons_append] at split
      rw [split, zeroRun_cons, if_pos rfl]
      exact Nat.succ_le_succ (ih rfl)

/-- The first longest run is found. -/
theorem exists_longestZeroRun
    (skipped : Nat)
    (groups : List UInt16) :
    ∃ before length after,
      longestZeroRun skipped groups = (skipped + before.length, length) ∧
        IsFirstLongestRun groups before length after := by
  induction groups generalizing skipped with
  | nil =>
      refine ⟨[], 0, [], rfl, rfl, ?_, fun _ => Nat.zero_le _⟩
      intro before' after' length' split
      have nothing := congrArg List.length split
      simp only [List.length_append, List.length_replicate, List.length_nil] at nothing
      omega
  | cons group rest ih =>
      rcases ih (skipped + 1) with ⟨before, length, after, found, run⟩
      by_cases here : length ≤ zeroRun (group :: rest)
      · -- The run at the front is at least as long as all later ones.
        rcases exists_rest_of_zeroRun (group :: rest) with ⟨after', split⟩
        refine ⟨[], zeroRun (group :: rest), after', ?_, split, ?_, fun _ => Nat.zero_le _⟩
        · simp only [longestZeroRun, found, if_pos here]
          rfl
        · intro before' after' length' split
          cases before' with
          | nil => exact le_zeroRun split
          | cons first before' =>
              exact Nat.le_trans (run.longest (List.cons.inj split).2) here
      · refine ⟨group :: before, length, after, ?_, ?_, ?_, ?_⟩
        · simp only [longestZeroRun, found, if_neg here, List.length_cons]
          congr 1
          omega
        · rw [List.cons_append, ← run.split]
        · intro before' after' length' split
          cases before' with
          | nil => exact Nat.le_trans (le_zeroRun split) (Nat.le_of_not_le here)
          | cons first before' => exact run.longest (List.cons.inj split).2
        · intro before' after' split
          cases before' with
          | nil => exact absurd (le_zeroRun split) here
          | cons first before' => exact Nat.succ_le_succ (run.first (List.cons.inj split).2)

/-- A text is a group in lower-case digits without leading zeros. -/
structure IsGroupText
    (group : UInt16)
    (text : List Char) : Prop where
  denotes : Hexadecimal.read? text = some group.toNat
  lower : ∀ digit ∈ text, digit ∈ Hexadecimal.lowerDigits
  plain : text.head? = some '0' → text = ['0']

theorem isGroupText_numeral
    (group : UInt16) :
    IsGroupText group (Hexadecimal.numeral group.toNat) where
  denotes := Hexadecimal.read?_numeral group.toNat
  lower _ := Hexadecimal.mem_lowerDigits_of_mem_numeral
  plain := Hexadecimal.numeral_eq_of_head?

theorem IsGroupText.eq_numeral
    {group : UInt16}
    {text : List Char}
    (written : IsGroupText group text) :
    text = Hexadecimal.numeral group.toNat :=
  Hexadecimal.eq_numeral_of_read? written.lower written.plain written.denotes

/-- A text consists of groups with colons between them. -/
def IsGroupsText
    (groups : List UInt16)
    (text : List Char) : Prop :=
  ∃ texts, List.Forall₂ IsGroupText groups texts ∧ text = [':'].intercalate texts

/-- The text of groups is the only one. -/
theorem isGroupsText_iff
    {groups : List UInt16}
    {text : List Char} :
    IsGroupsText groups text ↔ text = groupsText groups := by
  constructor
  · rintro ⟨texts, written, rfl⟩
    have same : texts = groups.map (fun group => Hexadecimal.numeral group.toNat) := by
      induction written with
      | nil => rfl
      | cons first _ ih => rw [List.map_cons, first.eq_numeral, ih]
    rw [same]
    rfl
  · rintro rfl
    refine ⟨groups.map (fun group => Hexadecimal.numeral group.toNat), ?_, rfl⟩
    rw [List.forall₂_map_right_iff, List.forall₂_same]
    exact fun group _ => isGroupText_numeral group

/-- The last two groups of the address embed an IPv4 address. -/
def Embeds
    (address : IPv6)
    (high low : UInt16) : Prop :=
  address.groups = [0, 0, 0, 0, 0, 0xffff, high, low]

/-- The recommended text of an address. -/
inductive IsRecommended
    (address : IPv6) :
    List Char → Prop where
  | embedded
      {high low : UInt16}
      (embeds : address.Embeds high low) :
      IsRecommended address ("::ffff:".toList ++ (ipv4OfGroups high low).text)
  | shortened
      {before after : List UInt16}
      {length : Nat}
      {front back : List Char}
      (plain : ∀ high low, ¬address.Embeds high low)
      (run : IsFirstLongestRun address.groups before length after)
      (several : 2 ≤ length)
      (written : IsGroupsText before front)
      (written' : IsGroupsText after back) :
      IsRecommended address (front ++ "::".toList ++ back)
  | full
      {text : List Char}
      (plain : ∀ high low, ¬address.Embeds high low)
      (scattered : ∀ before after, address.groups ≠ before ++ 0 :: 0 :: after)
      (written : IsGroupsText address.groups text) :
      IsRecommended address text

/-- The text of an address that embeds an IPv4 address. -/
theorem text_of_embeds
    {address : IPv6}
    {high low : UInt16}
    (embeds : address.Embeds high low) :
    address.text = "::ffff:".toList ++ (ipv4OfGroups high low).text := by
  rw [text, embeds]
  rfl

/-- The text of an address that embeds none. -/
theorem text_of_plain
    {address : IPv6}
    (plain : ∀ high low, ¬address.Embeds high low) :
    ∃ before length after,
      IsFirstLongestRun address.groups before length after ∧
        address.text =
          if 2 ≤ length then
            groupsText before ++ "::".toList ++ groupsText after
          else
            groupsText address.groups := by
  rcases exists_longestZeroRun 0 address.groups with ⟨before, length, after, found, run⟩
  rw [Nat.zero_add] at found
  have front : address.groups.take before.length = before := by
    rw [run.split, List.take_left]
  have back : address.groups.drop (before.length + length) = after := by
    rw [run.split, ← List.append_assoc]
    exact List.drop_left' (by simp)
  refine ⟨before, length, after, run, ?_⟩
  unfold text
  split
  next high low embeds => exact absurd embeds (plain high low)
  next => simp only [found, front, back]

/-- The text that is written for an address is the recommended one, and no other is. -/
theorem isRecommended_iff
    {address : IPv6}
    {text : List Char} :
    address.IsRecommended text ↔ text = address.text := by
  constructor
  · intro recommended
    cases recommended with
    | embedded embeds => exact (text_of_embeds embeds).symm
    | shortened plain run several written written' =>
        rcases text_of_plain plain with ⟨before, length, after, run', same⟩
        rcases run.unique run' with ⟨rfl, rfl, rfl⟩
        rw [same, if_pos several, isGroupsText_iff.mp written, isGroupsText_iff.mp written']
    | full plain scattered written =>
        rcases text_of_plain plain with ⟨before, length, after, run, same⟩
        have single : ¬2 ≤ length := by
          intro several
          rcases Nat.exists_eq_add_of_le' several with ⟨others, rfl⟩
          refine scattered before (List.replicate others 0 ++ after) ?_
          rw [run.split, List.replicate_succ, List.replicate_succ, List.cons_append,
            List.cons_append]
        rw [same, if_neg single, isGroupsText_iff.mp written]
  · rintro rfl
    by_cases embeds : ∃ high low, address.Embeds high low
    · rcases embeds with ⟨high, low, embeds⟩
      exact text_of_embeds embeds ▸ .embedded embeds
    · have plain : ∀ high low, ¬address.Embeds high low :=
        fun high low embedded => embeds ⟨high, low, embedded⟩
      rcases text_of_plain plain with ⟨before, length, after, run, written⟩
      rw [written]
      split
      next several =>
        exact .shortened plain run several (isGroupsText_iff.mpr rfl) (isGroupsText_iff.mpr rfl)
      next single =>
        refine .full plain ?_ (isGroupsText_iff.mpr rfl)
        intro before' after' split
        exact single (run.longest split)

/-- The text of an IPv6 address is a literal for it. -/
theorem isLiteral_text
    (address : IPv6) :
    address.IsLiteral address.text := by
  by_cases embeds : ∃ high low, address.Embeds high low
  · rcases embeds with ⟨high, low, embeds⟩
    have marker : IsField 0xffff "ffff".toList :=
      readGroup?_eq_some_iff.mp (by decide)
    have written : address.text =
        join [] ++ "::".toList ++ join ["ffff".toList, (ipv4OfGroups high low).text] := by
      rw [text_of_embeds embeds, join_cons_cons, join_singleton]
      rfl
    have filled : address.groups = [] ++ List.replicate 5 0 ++ [0xffff, high, low] :=
      embeds
    rw [written]
    exact .gap .nil (.field marker (spells_quad high low)) (by decide) filled
  · have plain : ∀ high low, ¬address.Embeds high low :=
      fun high low embedded => embeds ⟨high, low, embedded⟩
    rcases text_of_plain plain with ⟨before, length, after, run, written⟩
    rw [written]
    split
    next several =>
      exact .gap (forall₂_numerals before) (spells_of_forall₂ (forall₂_numerals after))
        (Nat.le_of_succ_le several) (by rw [List.append_assoc, ← run.split])
    next => exact .full (spells_of_forall₂ (forall₂_numerals address.groups))

/-- Every IPv6 address is read back from its text. -/
@[simp]
theorem read?_text
    (address : IPv6) :
    read? address.text = some address :=
  read?_eq_some_iff.mpr (isLiteral_text address)

end IPv6

/-! ## Addresses of either family -/

/-- The text of an IP address is a literal for it. -/
theorem IPAddress.isLiteral_text
    (ip : IPAddress) :
    ip.IsLiteral ip.text := by
  cases ip with
  | v4 address => exact .v4 (IPv4.isQuad_iff.mpr rfl)
  | v6 address => exact .v6 (IPv6.isLiteral_text address)

/-! ## Socket addresses -/

namespace SocketAddress

theorem readNumber?_numeral
    (number : UInt16) :
    readNumber? (Decimal.numeral number.toNat) = some number :=
  readNumber?_eq_some_iff.mpr (Decimal.isNumeral_numeral number.toNat)

theorem isScoped_text
    (address : IPv6)
    (scope : UInt32) :
    IsScoped address scope (address.text ++ scopeText scope) := by
  by_cases standard : scope = 0
  · rw [scopeText, if_pos standard, List.append_nil, standard]
    exact .withoutScope (IPv6.isLiteral_text address)
  · rw [scopeText, if_neg standard]
    exact .withScope (IPv6.isLiteral_text address)
      (Decimal.isNumeral_numeral scope.toNat)

/-- The text of a socket address is a literal for it. -/
theorem isLiteral_text
    (socket : SocketAddress) :
    socket.IsLiteral socket.text := by
  cases socket with
  | v4 address number =>
      exact .v4 (IPv4.isQuad_iff.mpr rfl) (Decimal.isNumeral_numeral number.toNat)
  | v6 address scope number =>
      have written : (v6 address scope number).text =
          '[' :: ((address.text ++ scopeText scope) ++
            ']' :: ':' :: Decimal.numeral number.toNat) := by
        simp [text]
      rw [written]
      exact .v6 (isScoped_text address scope) (Decimal.isNumeral_numeral number.toNat)

/-- Every socket address is read back from its text. -/
@[simp]
theorem read?_text
    (socket : SocketAddress) :
    read? socket.text = some socket :=
  read?_eq_some_iff.mpr (isLiteral_text socket)

/-- A number that stands behind a host is the number that is read. -/
theorem isLiteral_behind_iff
    {host : List Char}
    {number : UInt16}
    {socket : SocketAddress} :
    socket.IsLiteral (host ++ ':' :: Decimal.numeral number.toNat) ↔
      (∃ address : IPv4, socket = .v4 address number ∧ address.IsQuad host) ∨
        ∃ address scope inside, socket = .v6 address scope number ∧
          host = '[' :: (inside ++ [']']) ∧ IsScoped address scope inside := by
  have plain : ':' ∉ Decimal.numeral number.toNat :=
    Decimal.not_mem_numeral (by decide) _
  constructor
  · intro literal
    generalize whole : host ++ ':' :: Decimal.numeral number.toNat = text at literal
    cases literal with
    | @v4 address other host' digits isQuad numeral =>
        rcases append_last_separator_inj plain (numeral.not_mem (by decide)) whole with ⟨rfl, rfl⟩
        rw [UInt16.toNat_inj.mp (Decimal.eq_of_isNumeral_numeral numeral)]
        exact .inl ⟨address, rfl, isQuad⟩
    | @v6 address scope other inside digits isScoped numeral =>
        have split : host ++ ':' :: Decimal.numeral number.toNat =
            '[' :: (inside ++ [']']) ++ ':' :: digits := by
          rw [whole]
          simp
        rcases append_last_separator_inj plain (numeral.not_mem (by decide)) split with ⟨rfl, rfl⟩
        rw [UInt16.toNat_inj.mp (Decimal.eq_of_isNumeral_numeral numeral)]
        exact .inr ⟨address, scope, inside, rfl, rfl, isScoped⟩
  · rintro (⟨address, rfl, isQuad⟩ | ⟨address, scope, inside, rfl, rfl, isScoped⟩)
    · exact .v4 isQuad (Decimal.isNumeral_numeral _)
    · have literal := IsLiteral.v6 isScoped (Decimal.isNumeral_numeral number.toNat)
      simpa using literal

/-- The recommended text of a socket address. -/
inductive IsRecommended :
    SocketAddress → List Char → Prop where
  | v4
      (address : IPv4)
      (number : UInt16) :
      IsRecommended (.v4 address number)
        (['.'].intercalate (address.octets.map (fun octet => Decimal.numeral octet.toNat)) ++
          ':' :: Decimal.numeral number.toNat)
  | v6
      {address : IPv6}
      {host : List Char}
      (written : address.IsRecommended host)
      (number : UInt16) :
      IsRecommended (.v6 address 0 number)
        ('[' :: (host ++ "]:".toList ++ Decimal.numeral number.toNat))
  | v6WithScope
      {address : IPv6}
      {scope : UInt32}
      {host : List Char}
      (written : address.IsRecommended host)
      (set : scope ≠ 0)
      (number : UInt16) :
      IsRecommended (.v6 address scope number)
        ('[' :: (host ++ '%' :: Decimal.numeral scope.toNat ++ "]:".toList ++
          Decimal.numeral number.toNat))

/-- The text that is written for a socket address is the recommended one, and no other is. -/
theorem isRecommended_iff
    {address : SocketAddress}
    {text : List Char} :
    address.IsRecommended text ↔ text = address.text := by
  have quad
      (address : IPv4) :
      ['.'].intercalate (address.octets.map (fun octet => Decimal.numeral octet.toNat)) =
        address.text := by
    simp [IPv4.octets, IPv4.text, List.intercalate_cons_cons]
  constructor
  · intro recommended
    cases recommended with
    | v4 address number => rw [quad, SocketAddress.text]
    | v6 written number =>
        rw [IPv6.isRecommended_iff.mp written]
        simp [SocketAddress.text, scopeText]
    | v6WithScope written set number =>
        rw [IPv6.isRecommended_iff.mp written]
        simp [SocketAddress.text, scopeText, set]
  · rintro rfl
    cases address with
    | v4 address number =>
        have recommended := IsRecommended.v4 address number
        rwa [quad] at recommended
    | v6 address scope number =>
        have host : address.IsRecommended address.text := IPv6.isRecommended_iff.mpr rfl
        by_cases default : scope = 0
        · subst default
          simpa [SocketAddress.text, scopeText] using IsRecommended.v6 host number
        · simpa [SocketAddress.text, scopeText, default] using
            IsRecommended.v6WithScope host default number

end SocketAddress

end DnsOverQuic
