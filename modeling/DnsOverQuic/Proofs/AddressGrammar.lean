import DnsOverQuic.Address.Socket
import DnsOverQuic.Proofs.Numerals
import DnsOverQuic.Proofs.Separators
import Mathlib.Data.List.Forall2

/-!
# Grammars of addresses

The texts that denote an address, by their form: dotted quads, fields of hexadecimal
digits with at most one gap, and hosts with the number of a socket.  The readers of
addresses accept exactly these texts.

A reader cuts a text at separators and a grammar joins its parts by them.  The two agree
because no part contains the separator at which the whole is cut.
-/

namespace DnsOverQuic

open Text

/-! ## Dotted quads -/

namespace IPv4

theorem readOctet?_numeral
    (octet : UInt8) :
    readOctet? (Decimal.numeral octet.toNat) = some octet := by
  have bound : octet.toNat ≤ 255 := Nat.le_of_lt_succ octet.toNat_lt
  rw [readOctet?, Decimal.readNumeralUpTo?_numeral bound]
  exact congrArg some UInt8.ofNat_toNat

theorem numeral_of_readOctet?
    {field : List Char}
    {octet : UInt8}
    (read : readOctet? field = some octet) :
    Decimal.numeral octet.toNat = field := by
  rcases Option.map_eq_some_iff.mp read with ⟨value, numeral, rfl⟩
  have bound := Decimal.le_of_readUpTo? (Decimal.readUpTo?_of_readNumeralUpTo? numeral)
  rw [UInt8.toNat_ofNat_of_lt' (Nat.lt_succ_of_le bound)]
  exact Decimal.numeral_of_readNumeralUpTo? numeral

/-- A dotted quad contains digits and dots only. -/
theorem not_mem_text
    {symbol : Char}
    (noDigit : symbol.isDigit = false)
    (noDot : symbol ≠ '.')
    (address : IPv4) :
    symbol ∉ address.text := by
  simp only [text, List.mem_append, List.mem_cons, noDot,
    Decimal.not_mem_numeral noDigit, or_self, not_false_eq_true]

theorem splitOn_text
    (address : IPv4) :
    address.text.splitOn '.' =
      [Decimal.numeral address.first.toNat, Decimal.numeral address.second.toNat,
        Decimal.numeral address.third.toNat, Decimal.numeral address.fourth.toNat] := by
  have plain (value : Nat) : '.' ∉ Decimal.numeral value :=
    Decimal.not_mem_numeral (by decide) value
  rw [text, List.splitOn_append_cons_self_of_not_mem (plain _),
    List.splitOn_append_cons_self_of_not_mem (plain _),
    List.splitOn_append_cons_self_of_not_mem (plain _), List.splitOn_eq_singleton (plain _)]

/-- Every IPv4 address is read back from its dotted quad. -/
@[simp]
theorem read?_text
    (address : IPv4) :
    read? address.text = some address := by
  simp only [read?, splitOn_text, readOctet?_numeral]
  rfl

/-- Only the dotted quad of an address is read as it. -/
theorem text_of_read?
    {text : List Char}
    {address : IPv4}
    (read : read? text = some address) :
    address.text = text := by
  unfold read? at read
  split at read
  next first second third fourth fields =>
      rcases Option.bind_eq_some_iff.mp read with ⟨one, readOne, rest⟩
      rcases Option.bind_eq_some_iff.mp rest with ⟨two, readTwo, rest⟩
      rcases Option.bind_eq_some_iff.mp rest with ⟨three, readThree, rest⟩
      rcases Option.bind_eq_some_iff.mp rest with ⟨four, readFour, same⟩
      cases same
      have joined : ['.'].intercalate (text.splitOn '.') = text :=
        List.intercalate_splitOn '.'
      rw [fields] at joined
      rw [← joined, IPv4.text, numeral_of_readOctet? readOne, numeral_of_readOctet? readTwo,
        numeral_of_readOctet? readThree, numeral_of_readOctet? readFour]
      simp [List.intercalate_cons_cons]
  next => cases read

/-- A field of a dotted quad: a decimal numeral without leading zeros. -/
structure IsField
    (octet : UInt8)
    (field : List Char) : Prop where
  numeral : IsNumeral 10 Decimal.digitValue? octet.toNat field
  plain : field.head? = some '0' → field = ['0']

/-- A dotted quad: four fields with dots between them. -/
inductive IsQuad :
    IPv4 → List Char → Prop where
  | fields
      {first second third fourth : UInt8}
      {one two three four : List Char}
      (isFirst : IsField first one)
      (isSecond : IsField second two)
      (isThird : IsField third three)
      (isFourth : IsField fourth four) :
      IsQuad ⟨first, second, third, fourth⟩
        (one ++ '.' :: (two ++ '.' :: (three ++ '.' :: four)))

/-- Only the numeral of an octet is a field for it. -/
theorem isField_iff
    {octet : UInt8}
    {field : List Char} :
    IsField octet field ↔ field = Decimal.numeral octet.toNat := by
  constructor
  · intro isField
    exact isField.numeral.eq_toDigits (by decide)
      (fun _ read => Decimal.digitChar_of_digitValue? read) isField.plain
  · rintro rfl
    refine ⟨Decimal.isNumeral_numeral _, ?_⟩
    intro zero
    rw [Decimal.numeral, eq_zero_of_head?_toDigits (by decide) zero]
    rfl

/-- Only the text of an address is a dotted quad for it. -/
theorem isQuad_iff
    {address : IPv4}
    {text : List Char} :
    address.IsQuad text ↔ text = address.text := by
  constructor
  · rintro ⟨isFirst, isSecond, isThird, isFourth⟩
    rw [isField_iff.mp isFirst, isField_iff.mp isSecond, isField_iff.mp isThird,
      isField_iff.mp isFourth, IPv4.text]
  · rintro rfl
    exact .fields (isField_iff.mpr rfl) (isField_iff.mpr rfl) (isField_iff.mpr rfl)
      (isField_iff.mpr rfl)

/-- A dotted quad contains digits and dots only. -/
theorem IsQuad.not_mem
    {address : IPv4}
    {text : List Char}
    (isQuad : address.IsQuad text)
    {symbol : Char}
    (noDigit : Hexadecimal.digitValue? symbol = none)
    (noDot : symbol ≠ '.') :
    symbol ∉ text := by
  have noDecimal : symbol.isDigit = false := by
    rw [Bool.eq_false_iff]
    intro digit
    simp [Hexadecimal.digitValue?, digit] at noDigit
  rw [isQuad_iff.mp isQuad]
  exact not_mem_text noDecimal noDot address

/-- Exactly the dotted quads are read, each as its address. -/
theorem read?_eq_some_iff
    {text : List Char}
    {address : IPv4} :
    read? text = some address ↔ address.IsQuad text := by
  rw [isQuad_iff]
  exact ⟨fun read => (text_of_read? read).symm, fun same => same ▸ read?_text address⟩

end IPv4

/-! ## IPv6 -/

namespace IPv6

/-- A field of an IPv6 address: a hexadecimal numeral of at most four digits. -/
structure IsField
    (group : UInt16)
    (field : List Char) : Prop where
  numeral : IsNumeral 16 Hexadecimal.digitValue? group.toNat field
  short : field.length ≤ 4

/-- Fields that spell groups.  A dotted quad may stand for the last two groups. -/
inductive Spells :
    List (List Char) → List UInt16 → Prop where
  | nil :
      Spells [] []
  | field
      {field : List Char}
      {group : UInt16}
      {fields : List (List Char)}
      {groups : List UInt16}
      (first : IsField group field)
      (rest : Spells fields groups) :
      Spells (field :: fields) (group :: groups)
  | quad
      {field : List Char}
      {address : IPv4}
      (isQuad : address.IsQuad field) :
      Spells [field] (groupsOfIPv4 address)

/-- Fields with colons between them. -/
def join
    (fields : List (List Char)) :
    List Char :=
  [':'].intercalate fields

/--
The texts of an IPv6 address: eight groups, or fewer on both sides of a gap that stands
for one zero group or more.
-/
inductive IsLiteral
    (address : IPv6) :
    List Char → Prop where
  | full
      {fields : List (List Char)}
      (spelled : Spells fields address.groups) :
      IsLiteral address (join fields)
  | gap
      {front back : List (List Char)}
      {before after : List UInt16}
      {zeros : Nat}
      (inFront : List.Forall₂ IsField before front)
      (behind : Spells back after)
      (someZero : 1 ≤ zeros)
      (filled : address.groups = before ++ List.replicate zeros 0 ++ after) :
      IsLiteral address (join front ++ "::".toList ++ join back)

/-! ### Reading fields -/

theorem readGroup?_eq_some_iff
    {field : List Char}
    {group : UInt16} :
    readGroup? field = some group ↔ IsField group field := by
  unfold readGroup?
  constructor
  · intro read
    split at read
    next short =>
        rcases Option.map_eq_some_iff.mp read with ⟨value, readValue, rfl⟩
        have numeral := Hexadecimal.read?_eq_some_iff.mp readValue
        have small : value < 65536 :=
          Nat.lt_of_lt_of_le (numeral.lt_pow Hexadecimal.digitValue?_lt)
            (Nat.pow_le_pow_right (by decide) short)
        refine ⟨?_, short⟩
        rwa [UInt16.toNat_ofNat_of_lt' small]
    next => cases read
  · intro isField
    rw [if_pos isField.short, Hexadecimal.read?_eq_some_iff.mpr isField.numeral]
    exact congrArg some UInt16.ofNat_toNat

theorem readFields?_eq_some_iff
    {fields : List (List Char)}
    {groups : List UInt16} :
    readFields? fields = some groups ↔ List.Forall₂ IsField groups fields := by
  induction fields generalizing groups with
  | nil => simp [readFields?, eq_comm]
  | cons field fields ih =>
      rw [List.forall₂_cons_right_iff]
      simp only [readFields?, Option.bind_eq_bind, Option.bind_eq_some_iff, Option.pure_def,
        Option.some.injEq, readGroup?_eq_some_iff, ih]
      constructor
      · rintro ⟨group, first, others, rest, same⟩
        exact ⟨group, others, first, rest, same.symm⟩
      · rintro ⟨group, others, first, rest, same⟩
        exact ⟨group, first, others, rest, same.symm⟩

/-- No colon stands in a field, and no dot. -/
theorem IsField.not_mem
    {group : UInt16}
    {field : List Char}
    (isField : IsField group field)
    {symbol : Char}
    (noDigit : Hexadecimal.digitValue? symbol = none) :
    symbol ∉ field :=
  isField.numeral.not_mem noDigit

theorem readFieldsWithQuad?_eq_some_iff
    {fields : List (List Char)}
    {groups : List UInt16} :
    readFieldsWithQuad? fields = some groups ↔ Spells fields groups := by
  induction fields generalizing groups with
  | nil =>
      rw [readFieldsWithQuad?, Option.some.injEq]
      constructor
      · rintro rfl
        exact .nil
      · rintro ⟨⟩
        rfl
  | cons field rest ih =>
      cases rest with
      | nil =>
          constructor
          · intro read
            rw [readFieldsWithQuad?] at read
            split at read
            next address quad =>
                cases read
                exact .quad (IPv4.read?_eq_some_iff.mp quad)
            next =>
                rcases Option.map_eq_some_iff.mp read with ⟨group, readGroup, rfl⟩
                exact .field (readGroup?_eq_some_iff.mp readGroup) .nil
          · intro spelled
            cases spelled with
            | field first rest =>
                cases rest
                have noQuad : IPv4.read? field = none := by
                  rw [IPv4.read?, List.splitOn_eq_singleton (first.not_mem (by decide))]
                rw [readFieldsWithQuad?, noQuad]
                simp [readGroup?_eq_some_iff.mpr first]
            | quad isQuad =>
                rw [readFieldsWithQuad?, IPv4.read?_eq_some_iff.mpr isQuad]
      | cons next rest =>
          rw [readFieldsWithQuad?]
          · simp only [Option.bind_eq_bind, Option.bind_eq_some_iff, Option.pure_def,
              Option.some.injEq, readGroup?_eq_some_iff, ih]
            constructor
            · rintro ⟨group, first, groups, others, rfl⟩
              exact .field first others
            · rintro ⟨⟩
              exact ⟨_, ‹_›, _, ‹_›, rfl⟩
          · exact List.cons_ne_nil next rest

/-! ### Cutting and joining fields -/

/-- A field that a text is cut into at colons: not empty and without colons. -/
structure IsCut
    (field : List Char) : Prop where
  written : field ≠ []
  plain : ':' ∉ field

theorem IsField.isCut
    {group : UInt16}
    {field : List Char}
    (isField : IsField group field) :
    IsCut field :=
  ⟨isField.numeral.ne_nil, isField.not_mem (by decide)⟩

theorem isCut_of_forall₂
    {groups : List UInt16}
    {fields : List (List Char)}
    (areFields : List.Forall₂ IsField groups fields) :
    ∀ field ∈ fields, IsCut field := by
  induction areFields with
  | nil => exact fun _ member => absurd member List.not_mem_nil
  | cons first _ ih => exact List.forall_mem_cons.mpr ⟨first.isCut, ih⟩

theorem Spells.isCut
    {fields : List (List Char)}
    {groups : List UInt16}
    (spelled : Spells fields groups) :
    ∀ field ∈ fields, IsCut field := by
  induction spelled with
  | nil => exact fun _ member => absurd member List.not_mem_nil
  | field first _ ih => exact List.forall_mem_cons.mpr ⟨first.isCut, ih⟩
  | @quad field address isQuad =>
      rw [List.forall_mem_singleton, IPv4.isQuad_iff.mp isQuad]
      exact ⟨by simp [IPv4.text], IPv4.not_mem_text (by decide) (by decide) address⟩

@[simp]
theorem join_nil :
    join [] = [] :=
  rfl

@[simp]
theorem join_singleton
    (field : List Char) :
    join [field] = field :=
  List.intercalate_singleton

theorem join_cons_cons
    (field next : List Char)
    (rest : List (List Char)) :
    join (field :: next :: rest) = field ++ ':' :: join (next :: rest) := by
  simp [join, List.intercalate_cons_cons]

/-- Joined fields begin with a symbol of the first one. -/
theorem exists_of_join
    {field : List Char}
    (cut : IsCut field)
    (rest : List (List Char)) :
    ∃ symbol others, join (field :: rest) = symbol :: others ∧ symbol ≠ ':' := by
  rcases List.exists_cons_of_ne_nil cut.written with ⟨symbol, others, rfl⟩
  have apart : symbol ≠ ':' := fun same => cut.plain (same ▸ List.mem_cons_self)
  cases rest with
  | nil => exact ⟨symbol, others, join_singleton _, apart⟩
  | cons next rest => exact ⟨symbol, _, join_cons_cons _ next rest, apart⟩

theorem fields_join
    {parts : List (List Char)}
    (cut : ∀ part ∈ parts, IsCut part) :
    fields (join parts) = parts := by
  cases parts with
  | nil => rfl
  | cons part rest =>
      rcases exists_of_join (cut part List.mem_cons_self) rest with ⟨symbol, others, written, -⟩
      rw [fields, if_neg (written ▸ List.cons_ne_nil symbol others)]
      exact List.splitOn_intercalate ':' (fun field member => (cut field member).plain)
        (List.cons_ne_nil part rest)

theorem join_fields
    (text : List Char) :
    join (fields text) = text := by
  unfold fields
  split
  next nothing => rw [nothing, join_nil]
  next => exact List.intercalate_splitOn ':'

/-- A text is cut at its first two adjacent colons. -/
theorem breakAtGap?_cons
    {symbol : Char}
    {rest : List Char}
    (apart : symbol ≠ ':' ∨ rest.head? ≠ some ':') :
    breakAtGap? (symbol :: rest) =
      (breakAtGap? rest).map (fun (front, back) => (symbol :: front, back)) := by
  rw [breakAtGap?]
  rintro back rfl rfl
  simp at apart

theorem breakAtGap?_append
    {word : List Char}
    (plain : ':' ∉ word)
    (rest : List Char) :
    breakAtGap? (word ++ rest) =
      (breakAtGap? rest).map (fun (front, back) => (word ++ front, back)) := by
  induction word with
  | nil => simp
  | cons symbol word ih =>
      simp only [List.mem_cons, not_or] at plain
      rw [List.cons_append, breakAtGap?_cons (Or.inl (Ne.symm plain.1)), ih plain.2, Option.map_map]
      rfl

/-- There is no gap inside of joined fields. -/
theorem breakAtGap?_join_append
    {parts : List (List Char)}
    (cut : ∀ part ∈ parts, IsCut part)
    (rest : List Char) :
    breakAtGap? (join parts ++ rest) =
      (breakAtGap? rest).map (fun (front, back) => (join parts ++ front, back)) := by
  induction parts with
  | nil => simp
  | cons part others ih =>
      have plain : ':' ∉ part := (cut part List.mem_cons_self).plain
      have cut' : ∀ part ∈ others, IsCut part :=
        fun other member => cut other (List.mem_cons_of_mem part member)
      cases others with
      | nil =>
          rw [join_singleton]
          exact breakAtGap?_append plain rest
      | cons next others =>
          have apart : (join (next :: others) ++ rest).head? ≠ some ':' := by
            rcases exists_of_join (cut' next List.mem_cons_self) others with
              ⟨symbol, tail, written, other⟩
            rw [written]
            exact fun same => other (Option.some.inj same)
          rw [join_cons_cons, List.append_assoc, List.cons_append, breakAtGap?_append plain,
            breakAtGap?_cons (Or.inr apart), ih cut', Option.map_map, Option.map_map]
          congr 1
          funext parts
          simp

theorem eq_of_breakAtGap?
    {text front back : List Char}
    (broken : breakAtGap? text = some (front, back)) :
    text = front ++ "::".toList ++ back := by
  fun_induction breakAtGap? text generalizing front with
  | case1 => cases broken; rfl
  | case2 symbol rest _ ih =>
      rcases Option.map_eq_some_iff.mp broken with ⟨⟨front', back'⟩, later, same⟩
      cases same
      rw [ih later]
      rfl
  | case3 => cases broken

theorem ofGroups?_groups
    (address : IPv6) :
    ofGroups? address.groups = some address := by
  rw [ofGroups?, dif_pos address.length_groups]

theorem ofGroups?_eq_some_iff
    {groups : List UInt16}
    {address : IPv6} :
    ofGroups? groups = some address ↔ address.groups = groups := by
  constructor
  · intro built
    unfold ofGroups? at built
    split at built
    · cases built
      rfl
    · cases built
  · rintro rfl
    exact ofGroups?_groups address

/-- Exactly the literals of IPv6 addresses are read, each as its address. -/
theorem read?_eq_some_iff
    {text : List Char}
    {address : IPv6} :
    read? text = some address ↔ address.IsLiteral text := by
  constructor
  · intro read
    unfold read? at read
    split at read
    next front back broken =>
        rcases Option.bind_eq_some_iff.mp read with ⟨before, readFront, rest⟩
        rcases Option.bind_eq_some_iff.mp rest with ⟨after, readBack, built⟩
        split at built
        next room =>
          rw [eq_of_breakAtGap? broken, ← join_fields front, ← join_fields back]
          exact .gap (readFields?_eq_some_iff.mp readFront)
            (readFieldsWithQuad?_eq_some_iff.mp readBack) (by omega)
            (ofGroups?_eq_some_iff.mp built)
        next => cases built
    next =>
        rcases Option.bind_eq_some_iff.mp read with ⟨groups, readGroups, built⟩
        rw [← ofGroups?_eq_some_iff.mp built] at readGroups
        rw [← join_fields text]
        exact .full (readFieldsWithQuad?_eq_some_iff.mp readGroups)
  · intro literal
    cases literal with
    | full spelled =>
        have whole := breakAtGap?_join_append spelled.isCut []
        rw [List.append_nil] at whole
        rw [read?, whole]
        simp only [breakAtGap?, Option.map_none, fields_join spelled.isCut,
          readFieldsWithQuad?_eq_some_iff.mpr spelled]
        exact ofGroups?_groups address
    | @gap front back before after zeros inFront behind someZero filled =>
        have cut := isCut_of_forall₂ inFront
        have broken : breakAtGap? (join front ++ "::".toList ++ join back) =
            some (join front, join back) := by
          rw [List.append_assoc, breakAtGap?_join_append cut]
          exact congrArg (fun text => some (text, join back)) (List.append_nil _)
        have eight := address.length_groups
        rw [filled, List.length_append, List.length_append, List.length_replicate] at eight
        have room : before.length + after.length ≤ 7 := by
          omega
        have left : 8 - (before.length + after.length) = zeros := by
          omega
        rw [read?, broken]
        simp only [fields_join cut, fields_join behind.isCut, readFields?_eq_some_iff.mpr inFront,
          readFieldsWithQuad?_eq_some_iff.mpr behind, Option.bind_eq_bind, Option.bind_some,
          if_pos room, left]
        exact ofGroups?_eq_some_iff.mpr filled

/-! ### Symbols of literals -/

theorem not_mem_join
    {parts : List (List Char)}
    {symbol : Char}
    (plain : ∀ part ∈ parts, symbol ∉ part)
    (noColon : symbol ≠ ':') :
    symbol ∉ join parts := by
  induction parts with
  | nil => exact List.not_mem_nil
  | cons part others ih =>
      have later := ih (fun other member => plain other (List.mem_cons_of_mem part member))
      cases others with
      | nil =>
          rw [join_singleton]
          exact plain part List.mem_cons_self
      | cons next others =>
          rw [join_cons_cons]
          simp [plain part List.mem_cons_self, noColon, later]

theorem not_mem_of_forall₂
    {groups : List UInt16}
    {fields : List (List Char)}
    (areFields : List.Forall₂ IsField groups fields)
    {symbol : Char}
    (noDigit : Hexadecimal.digitValue? symbol = none) :
    ∀ field ∈ fields, symbol ∉ field := by
  induction areFields with
  | nil => exact fun _ member => absurd member List.not_mem_nil
  | cons first _ ih => exact List.forall_mem_cons.mpr ⟨first.not_mem noDigit, ih⟩

theorem Spells.not_mem
    {fields : List (List Char)}
    {groups : List UInt16}
    (spelled : Spells fields groups)
    {symbol : Char}
    (noDigit : Hexadecimal.digitValue? symbol = none)
    (noDot : symbol ≠ '.') :
    ∀ field ∈ fields, symbol ∉ field := by
  induction spelled with
  | nil => exact fun _ member => absurd member List.not_mem_nil
  | field first _ ih => exact List.forall_mem_cons.mpr ⟨first.not_mem noDigit, ih⟩
  | @quad field address isQuad =>
      rw [List.forall_mem_singleton]
      exact isQuad.not_mem noDigit noDot

/-- A literal contains digits, colons and dots only. -/
theorem IsLiteral.not_mem
    {address : IPv6}
    {text : List Char}
    (literal : address.IsLiteral text)
    {symbol : Char}
    (noDigit : Hexadecimal.digitValue? symbol = none)
    (noColon : symbol ≠ ':')
    (noDot : symbol ≠ '.') :
    symbol ∉ text := by
  cases literal with
  | full spelled => exact not_mem_join (spelled.not_mem noDigit noDot) noColon
  | gap inFront behind =>
      have front := not_mem_join (not_mem_of_forall₂ inFront noDigit) noColon
      have back := not_mem_join (behind.not_mem noDigit noDot) noColon
      simp [front, back, noColon]

theorem Spells.length_le
    {fields : List (List Char)}
    {groups : List UInt16}
    (spelled : Spells fields groups) :
    groups.length ≤ fields.length + 1 := by
  induction spelled with
  | nil => exact Nat.zero_le _
  | field _ _ ih => exact Nat.succ_le_succ ih
  | quad => exact Nat.le_refl 2

/-- A literal contains two colons at least, so it is no host with a number. -/
theorem IsLiteral.two_le_count
    {address : IPv6}
    {text : List Char}
    (literal : address.IsLiteral text) :
    2 ≤ text.count ':' := by
  cases literal with
  | @full fields spelled =>
      have several := spelled.length_le
      rw [address.length_groups] at several
      match fields, several with
      | first :: second :: third :: rest, _ =>
          rw [join_cons_cons, join_cons_cons]
          simp only [List.count_append, List.count_cons_self]
          omega
  | gap =>
      have colons : "::".toList.count ':' = 2 := by
        decide
      simp only [List.count_append, colons]
      omega

theorem IsLiteral.colon_mem
    {address : IPv6}
    {text : List Char}
    (literal : address.IsLiteral text) :
    ':' ∈ text :=
  List.count_pos_iff.mp (Nat.lt_of_lt_of_le Nat.two_pos literal.two_le_count)

end IPv6

/-! ## Addresses of either family -/

namespace IPAddress

/-- The texts of an IP address. -/
inductive IsLiteral :
    IPAddress → List Char → Prop where
  | v4
      {address : IPv4}
      {text : List Char}
      (isQuad : address.IsQuad text) :
      IsLiteral (.v4 address) text
  | v6
      {address : IPv6}
      {text : List Char}
      (literal : address.IsLiteral text) :
      IsLiteral (.v6 address) text

/-- A literal contains digits, colons and dots only. -/
theorem IsLiteral.not_mem
    {address : IPAddress}
    {text : List Char}
    (literal : address.IsLiteral text)
    {symbol : Char}
    (noDigit : Hexadecimal.digitValue? symbol = none)
    (noColon : symbol ≠ ':')
    (noDot : symbol ≠ '.') :
    symbol ∉ text := by
  cases literal with
  | v4 isQuad => exact isQuad.not_mem noDigit noDot
  | v6 literal => exact literal.not_mem noDigit noColon noDot

/-- A host and a number are no literal of an IP address. -/
theorem IsLiteral.count_ne_one
    {address : IPAddress}
    {text : List Char}
    (literal : address.IsLiteral text) :
    text.count ':' ≠ 1 := by
  cases literal with
  | v4 isQuad =>
      rw [List.count_eq_zero_of_not_mem (isQuad.not_mem (by decide) (by decide))]
      decide
  | v6 literal =>
      have several := literal.two_le_count
      omega

/-- Exactly the literals of IP addresses are read, each as its address. -/
theorem read?_eq_some_iff
    {text : List Char}
    {address : IPAddress} :
    read? text = some address ↔ address.IsLiteral text := by
  unfold read?
  constructor
  · intro read
    split at read
    next quad =>
        cases read
        exact .v4 (IPv4.read?_eq_some_iff.mp quad)
    next =>
        rcases Option.map_eq_some_iff.mp read with ⟨address, readAddress, rfl⟩
        exact .v6 (IPv6.read?_eq_some_iff.mp readAddress)
  · intro literal
    cases literal with
    | v4 isQuad => rw [IPv4.read?_eq_some_iff.mpr isQuad]
    | v6 literal =>
        have noQuad : IPv4.read? text = none := by
          cases quad : IPv4.read? text with
          | none => rfl
          | some address =>
              have plain : ':' ∉ address.text :=
                IPv4.not_mem_text (by decide) (by decide) address
              rw [IPv4.text_of_read? quad] at plain
              exact absurd literal.colon_mem plain
        rw [noQuad, IPv6.read?_eq_some_iff.mpr literal]
        rfl

end IPAddress

/-! ## Socket addresses -/

namespace SocketAddress

/-- An IPv6 address with its scope, which a percent sign introduces. -/
inductive IsScoped
    (address : IPv6) :
    UInt32 → List Char → Prop where
  | withoutScope
      {host : List Char}
      (literal : address.IsLiteral host) :
      IsScoped address 0 host
  | withScope
      {host digits : List Char}
      {scope : UInt32}
      (literal : address.IsLiteral host)
      (numeral : IsNumeral 10 Decimal.digitValue? scope.toNat digits) :
      IsScoped address scope (host ++ '%' :: digits)

/-- The texts of a socket address: a host, in brackets if it is IPv6, and a number. -/
inductive IsLiteral :
    SocketAddress → List Char → Prop where
  | v4
      {address : IPv4}
      {number : UInt16}
      {host digits : List Char}
      (isQuad : address.IsQuad host)
      (numeral : IsNumeral 10 Decimal.digitValue? number.toNat digits) :
      IsLiteral (.v4 address number) (host ++ ':' :: digits)
  | v6
      {address : IPv6}
      {scope : UInt32}
      {number : UInt16}
      {inside digits : List Char}
      (isScoped : IsScoped address scope inside)
      (numeral : IsNumeral 10 Decimal.digitValue? number.toNat digits) :
      IsLiteral (.v6 address scope number) ('[' :: (inside ++ ']' :: ':' :: digits))

theorem readNumber?_eq_some_iff
    {digits : List Char}
    {number : UInt16} :
    readNumber? digits = some number ↔
      IsNumeral 10 Decimal.digitValue? number.toNat digits := by
  constructor
  · intro read
    rcases Option.map_eq_some_iff.mp read with ⟨value, readValue, rfl⟩
    have bound := Decimal.le_of_readUpTo? readValue
    rw [UInt16.toNat_ofNat_of_lt' (Nat.lt_succ_of_le bound)]
    exact (Decimal.readUpTo?_eq_some_iff.mp readValue).1
  · intro numeral
    have bound : number.toNat ≤ 65535 := Nat.le_of_lt_succ number.toNat_lt
    rw [readNumber?, Decimal.readUpTo?_eq_some_iff.mpr ⟨numeral, bound⟩]
    exact congrArg some UInt16.ofNat_toNat

theorem readScope?_eq_some_iff
    {digits : List Char}
    {scope : UInt32} :
    readScope? digits = some scope ↔
      IsNumeral 10 Decimal.digitValue? scope.toNat digits := by
  constructor
  · intro read
    rcases Option.map_eq_some_iff.mp read with ⟨value, readValue, rfl⟩
    have bound := Decimal.le_of_readUpTo? readValue
    rw [UInt32.toNat_ofNat_of_lt' (Nat.lt_succ_of_le bound)]
    exact (Decimal.readUpTo?_eq_some_iff.mp readValue).1
  · intro numeral
    have bound : scope.toNat ≤ 4294967295 := Nat.le_of_lt_succ scope.toNat_lt
    rw [readScope?, Decimal.readUpTo?_eq_some_iff.mpr ⟨numeral, bound⟩]
    exact congrArg some UInt32.ofNat_toNat

theorem IsScoped.not_mem
    {address : IPv6}
    {scope : UInt32}
    {inside : List Char}
    (isScoped : IsScoped address scope inside)
    {symbol : Char}
    (noDigit : Hexadecimal.digitValue? symbol = none)
    (noColon : symbol ≠ ':')
    (noDot : symbol ≠ '.')
    (noPercent : symbol ≠ '%') :
    symbol ∉ inside := by
  cases isScoped with
  | withoutScope literal => exact literal.not_mem noDigit noColon noDot
  | withScope literal numeral =>
      have noDecimal : Decimal.digitValue? symbol = none := by
        cases digit : symbol.isDigit with
        | true => simp [Hexadecimal.digitValue?, digit] at noDigit
        | false => simp [Decimal.digitValue?, digit]
      simp [literal.not_mem noDigit noColon noDot, numeral.not_mem noDecimal, noPercent]

theorem IsScoped.colon_mem
    {address : IPv6}
    {scope : UInt32}
    {inside : List Char}
    (isScoped : IsScoped address scope inside) :
    ':' ∈ inside := by
  cases isScoped with
  | withoutScope literal => exact literal.colon_mem
  | withScope literal => exact List.mem_append_left _ literal.colon_mem

theorem readScoped?_eq_some_iff
    {inside : List Char}
    {address : IPv6}
    {scope : UInt32} :
    readScoped? inside = some (address, scope) ↔ IsScoped address scope inside := by
  constructor
  · intro read
    unfold readScoped? at read
    split at read
    next host parts =>
        have whole : ['%'].intercalate (inside.splitOn '%') = inside :=
          List.intercalate_splitOn '%'
        rw [parts, List.intercalate_singleton] at whole
        rcases Option.bind_eq_some_iff.mp read with ⟨found, readHost, same⟩
        cases same
        exact whole ▸ .withoutScope (IPv6.read?_eq_some_iff.mp readHost)
    next host digits parts =>
        rcases Option.bind_eq_some_iff.mp read with ⟨found, readHost, rest⟩
        rcases Option.bind_eq_some_iff.mp rest with ⟨number, readDigits, same⟩
        cases same
        rw [(splitOn_eq_pair_iff.mp parts).1]
        exact .withScope (IPv6.read?_eq_some_iff.mp readHost) (readScope?_eq_some_iff.mp readDigits)
    next => cases read
  · intro isScoped
    cases isScoped with
    | withoutScope literal =>
        have plain : '%' ∉ inside := literal.not_mem (by decide) (by decide) (by decide)
        rw [readScoped?, List.splitOn_eq_singleton plain]
        simp [IPv6.read?_eq_some_iff.mpr literal]
    | @withScope host digits _ literal numeral =>
        have plain : '%' ∉ host := literal.not_mem (by decide) (by decide) (by decide)
        have plain' : '%' ∉ digits := numeral.not_mem (by decide)
        rw [readScoped?, splitOn_eq_pair_iff.mpr ⟨rfl, plain, plain'⟩]
        simp [IPv6.read?_eq_some_iff.mpr literal, readScope?_eq_some_iff.mpr numeral]

/-- A text with one colon is an IPv4 socket address exactly by what stands on its sides. -/
theorem readV4?_of_colon
    {host digits : List Char}
    (noColon : ':' ∉ host)
    (noColon' : ':' ∉ digits) :
    readV4? (host ++ ':' :: digits) =
      (IPv4.read? host).bind (fun address => (readNumber? digits).map (v4 address)) := by
  rw [readV4?, splitOn_eq_pair_iff.mpr ⟨rfl, noColon, noColon'⟩]
  dsimp only
  cases IPv4.read? host with
  | none => rfl
  | some address => cases readNumber? digits <;> rfl

/-- No IPv4 socket address begins with a bracket. -/
theorem readV4?_bracket
    (rest : List Char) :
    readV4? ('[' :: rest) = none := by
  cases read : readV4? ('[' :: rest) with
  | none => rfl
  | some address =>
      unfold readV4? at read
      split at read
      next host digits fields =>
          rcases Option.bind_eq_some_iff.mp read with ⟨quad, readQuad, -⟩
          have joined := (splitOn_eq_pair_iff.mp fields).1
          cases host with
          | nil => cases readQuad
          | cons symbol others =>
              have bracket : symbol = '[' := (List.cons.inj joined).1.symm
              have inside : '[' ∈ quad.text := by
                rw [IPv4.text_of_read? readQuad, bracket]
                exact List.mem_cons_self
              exact absurd inside (IPv4.not_mem_text (by decide) (by decide) quad)
      next => cases read

theorem readV6?_of_noBracket
    {text : List Char}
    (noBracket : text.head? ≠ some '[') :
    readV6? text = none := by
  unfold readV6?
  split
  next => exact absurd rfl noBracket
  next => rfl

theorem readV4?_eq_some_iff
    {text : List Char}
    {socket : SocketAddress} :
    readV4? text = some socket ↔
      ∃ address number, socket = .v4 address number ∧ socket.IsLiteral text := by
  constructor
  · intro read
    unfold readV4? at read
    split at read
    next host digits parts =>
        rcases Option.bind_eq_some_iff.mp read with ⟨address, readHost, rest⟩
        rcases Option.bind_eq_some_iff.mp rest with ⟨number, readDigits, same⟩
        cases same
        refine ⟨address, number, rfl, ?_⟩
        rw [(splitOn_eq_pair_iff.mp parts).1]
        exact .v4 (IPv4.read?_eq_some_iff.mp readHost) (readNumber?_eq_some_iff.mp readDigits)
    next => cases read
  · rintro ⟨address, number, rfl, literal⟩
    cases literal with
    | @v4 _ _ host digits isQuad numeral =>
        have plain : ':' ∉ host := by
          rw [IPv4.isQuad_iff.mp isQuad]
          exact IPv4.not_mem_text (by decide) (by decide) address
        rw [readV4?_of_colon plain (numeral.not_mem (by decide)),
          IPv4.read?_eq_some_iff.mpr isQuad, readNumber?_eq_some_iff.mpr numeral]
        rfl

theorem readV6?_eq_some_iff
    {text : List Char}
    {socket : SocketAddress} :
    readV6? text = some socket ↔
      ∃ address scope number, socket = .v6 address scope number ∧ socket.IsLiteral text := by
  constructor
  · intro read
    unfold readV6? at read
    split at read
    next bracketed =>
        split at read
        next inside digits parts =>
            rcases Option.bind_eq_some_iff.mp read with ⟨⟨address, scope⟩, readInside, rest⟩
            rcases Option.bind_eq_some_iff.mp rest with ⟨number, readDigits, same⟩
            cases same
            refine ⟨address, scope, number, rfl, ?_⟩
            rw [(splitOn_eq_pair_iff.mp parts).1]
            exact .v6 (readScoped?_eq_some_iff.mp readInside)
              (readNumber?_eq_some_iff.mp readDigits)
        next => cases read
    next => cases read
  · rintro ⟨address, scope, number, rfl, literal⟩
    cases literal with
    | @v6 _ _ _ inside digits isScoped numeral =>
        have plain : ']' ∉ inside :=
          isScoped.not_mem (by decide) (by decide) (by decide) (by decide)
        have plain' : ']' ∉ digits := numeral.not_mem (by decide)
        rw [readV6?, splitOn_eq_pair_iff.mpr ⟨rfl, plain, by simp [plain']⟩]
        simp [readScoped?_eq_some_iff.mpr isScoped, readNumber?_eq_some_iff.mpr numeral]

/-- Exactly the literals of socket addresses are read, each as its address. -/
theorem read?_eq_some_iff
    {text : List Char}
    {socket : SocketAddress} :
    read? text = some socket ↔ socket.IsLiteral text := by
  rw [read?, Option.or_eq_some_iff, readV4?_eq_some_iff, readV6?_eq_some_iff]
  constructor
  · rintro (⟨_, _, _, literal⟩ | ⟨_, _, _, _, _, literal⟩) <;> exact literal
  · intro literal
    cases socket with
    | v4 address number => exact .inl ⟨address, number, rfl, literal⟩
    | v6 address scope number =>
        refine .inr ⟨?_, address, scope, number, rfl, literal⟩
        cases literal with
        | v6 => exact readV4?_bracket _

end SocketAddress

end DnsOverQuic
