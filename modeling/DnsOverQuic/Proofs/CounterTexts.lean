import DnsOverQuic.Gateway.Meter
import DnsOverQuic.Proofs.Separators
import Mathlib.Data.List.Nodup

/-!
# Reading the texts of the counters

What a reader finds in the exposition text and in the compact object, without
knowing how they are written: the line on a name in a text of lines, and the members
of an object.  Encoders are faithful if the reader finds the counts that were written,
as long as a double precision number can hold them.  The standard encoders are.
-/

namespace DnsOverQuic.Gateway

open Text

/-! ## What is read -/

/-- What precedes the first space of a line. -/
def firstWord
    (line : List Char) :
    List Char :=
  line.takeWhile (· ≠ ' ')

/-- True for a line that begins with a name. -/
def isOn
    (name : String)
    (line : List Char) :
    Bool :=
  firstWord line == name.toList

/-- The lines of a text that begin with a name. -/
def linesOn
    (name : String)
    (text : List Char) :
    List (List Char) :=
  (text.splitOn '\n').filter (isOn name)

/-- A text has exactly one line on a name, and it tells the count in decimal. -/
def TellsOnce
    (text : List Char)
    (name : String)
    (count : Nat) : Prop :=
  ∃ digits, linesOn name text = [name.toList ++ ' ' :: digits] ∧
    Decimal.read? digits = some count

/-- What is between an opening and a closing character. -/
def within?
    (opening closing : Char) :
    List Char → Option (List Char)
  | [] => none
  | first :: rest =>
      if first = opening ∧ rest.getLast? = some closing then some rest.dropLast else none

/-- Read a member of an object: a name in quotes, a colon and a decimal number. -/
def readMember?
    (text : List Char) :
    Option (List Char × Nat) :=
  match text.splitOn ':' with
  | [name, digits] => do return (← within? '"' '"' name, ← Decimal.read? digits)
  | _ => none

/-- Read a compact object of numbers. -/
def readObject?
    (text : List Char) :
    Option (List (List Char × Nat)) := do
  ((← within? '{' '}' text).splitOn ',').mapM readMember?

/-! ## Faithful encoders -/

/-- True for a name of letters and underscores. -/
def isWord
    (name : String) :
    Bool :=
  name.toList.all (fun symbol => symbol.isAlpha || symbol == '_')

/-- Families as a registry has them: under proper names, none of which is taken twice. -/
structure Registered
    (families : List Exposition.Family) : Prop where
  nonempty : families ≠ []
  named : ∀ family ∈ families, Tally.isName family.name = true
  distinct : (families.map Exposition.Family.name).Nodup

/--
Encoders are faithful if what is written can be read: there is a text of registered
families, which tells every count below 2 ^ 53, and the object has the members of
which it is written.
-/
structure Encoders.Faithful
    (encoders : Encoders) : Prop where
  exposition :
    ∀ families, Registered families →
      ∃ text, encoders.exposition families = some text ∧
        ∀ family ∈ families, family.count.toNat < Exposition.doubleLimit →
          TellsOnce text family.name family.count.toNat
  object :
    ∀ members, members ≠ [] → (∀ member ∈ members, isWord member.1 = true) →
      readObject? (encoders.object members) =
        some (members.map (fun member => (member.1.toList, member.2.toNat)))

/-! ## The exposition text -/

theorem firstWord_append
    {word : List Char}
    (unbroken : ' ' ∉ word)
    (rest : List Char) :
    firstWord (word ++ ' ' :: rest) = word := by
  have allowed : ∀ symbol ∈ word, decide (symbol ≠ ' ') = true := by
    intro symbol member
    exact decide_eq_true (fun same => unbroken (same ▸ member))
  rw [firstWord, List.takeWhile_append_of_pos allowed,
    List.takeWhile_cons_of_neg (by simp), List.append_nil]

section Names

variable {name : String}

/-- A name has none of the characters that separate. -/
theorem not_mem_of_isName
    {symbol : Char}
    (proper : Tally.isName name = true)
    (separates : (Tally.startsName symbol || symbol.isDigit) = false) :
    symbol ∉ name.toList := by
  intro member
  have allowed : (Tally.startsName symbol || symbol.isDigit) = true := by
    cases parts : name.toList with
    | nil => simp [parts] at member
    | cons first rest =>
        simp only [Tally.isName, parts, Bool.and_eq_true, List.all_eq_true] at proper
        rw [parts] at member
        cases member with
        | head => rw [proper.1, Bool.true_or]
        | tail _ later => exact proper.2 symbol later
  rw [separates] at allowed
  cases allowed

theorem ne_empty_of_isName
    (proper : Tally.isName name = true) :
    name ≠ "" := by
  rintro rfl
  cases proper

end Names

namespace Exposition

theorem not_mem_escaped
    (description : String) :
    '\n' ∉ escaped description := by
  intro member
  rcases List.mem_flatMap.mp member with ⟨symbol, -, written⟩
  split at written
  next => simp at written
  next => simp at written
  next _ unbroken => exact unbroken (List.mem_singleton.mp written).symm

/-- A number of at most 53 digits is a double precision number. -/
theorem nearestDouble_of_lt
    {value : Nat}
    (small : value < doubleLimit) :
    nearestDouble value = value := by
  have digits : value.log2 - 52 = 0 := by
    by_cases zero : value = 0
    · rw [zero]
      rfl
    · have : value.log2 < 53 := (Nat.log2_lt zero).mpr small
      omega
  simp [nearestDouble, digits, Nat.mod_one]

section Families

variable
    {family : Family}
    {families : List Family}

/-- The sample line of a family. -/
def sampleLine
    (family : Family) :
    List Char :=
  family.name.toList ++ ' ' :: Decimal.numeral (nearestDouble family.count.toNat)

theorem unbroken_of_mem_familyLines
    (proper : Tally.isName family.name = true)
    {line : List Char}
    (member : line ∈ familyLines family) :
    '\n' ∉ line := by
  have unnamed : '\n' ∉ family.name.toList := not_mem_of_isName proper (by decide)
  have unnumbered : '\n' ∉ Decimal.numeral (nearestDouble family.count.toNat) :=
    Decimal.not_mem_numeral (by decide) _
  have undescribed := not_mem_escaped family.description
  simp only [familyLines, List.mem_cons, List.not_mem_nil, or_false] at member
  rcases member with rfl | rfl | rfl
  · simpa [unnamed] using undescribed
  · simpa using unnamed
  · simpa [unnamed] using unnumbered

/-- Of the lines on a family, its sample line is the only one that begins with a name. -/
theorem filter_familyLines
    (proper : Tally.isName family.name = true)
    {name : String}
    (proper' : Tally.isName name = true) :
    (familyLines family).filter (isOn name) =
      if family.name = name then [sampleLine family] else [] := by
  have comment
      (rest : List Char) :
      isOn name (['#'] ++ ' ' :: rest) = false := by
    rw [isOn, firstWord_append (by decide), beq_eq_false_iff_ne]
    intro same
    have uncommented : '#' ∉ name.toList := not_mem_of_isName proper' (by decide)
    exact uncommented (same ▸ List.mem_singleton_self _)
  have sampled : isOn name (sampleLine family) = decide (family.name = name) := by
    rw [isOn, sampleLine, firstWord_append (not_mem_of_isName proper (by decide))]
    simp [Bool.beq_eq_decide_eq, String.toList_inj]
  have parts :
      familyLines family =
        [['#'] ++ ' ' :: ("HELP ".toList ++ family.name.toList ++
            ' ' :: escaped family.description),
          ['#'] ++ ' ' :: ("TYPE ".toList ++ family.name.toList ++ " counter".toList),
          sampleLine family] :=
    rfl
  rw [parts]
  simp only [List.filter_cons, comment, sampled, List.filter_nil, decide_eq_true_eq,
    Bool.false_eq_true, if_false]

theorem flatMap_of_name
    (distinct : (families.map Family.name).Nodup)
    (member : family ∈ families) :
    families.flatMap
        (fun other => if other.name = family.name then [sampleLine other] else []) =
      [sampleLine family] := by
  induction families with
  | nil => cases member
  | cons first rest ih =>
      rw [List.map_cons, List.nodup_cons] at distinct
      rw [List.flatMap_cons]
      cases member with
      | head =>
          have others : ∀ other ∈ rest,
              (if other.name = family.name then [sampleLine other] else []) = [] := by
            intro other present
            refine if_neg (fun same => distinct.1 ?_)
            exact List.mem_map.mpr ⟨other, present, same⟩
          rw [if_pos rfl, List.flatMap_eq_nil_iff.mpr others, List.append_nil]
      | tail _ later =>
          have apart : first.name ≠ family.name := fun same =>
            distinct.1 (List.mem_map.mpr ⟨family, later, same.symm⟩)
          rw [if_neg apart, ih distinct.2 later, List.nil_append]

/-- Of all families, only one has lines that begin with its name. -/
theorem linesOn_text
    (registered : Registered families)
    (member : family ∈ families) :
    linesOn family.name ((families.flatMap familyLines).flatMap (· ++ ['\n'])) =
      [sampleLine family] := by
  have unbroken : ∀ line ∈ families.flatMap familyLines, '\n' ∉ line := by
    intro line written
    rcases List.mem_flatMap.mp written with ⟨other, present, written⟩
    exact unbroken_of_mem_familyLines (registered.named other present) written
  have proper := registered.named family member
  have unnamed : isOn family.name [] = false := by
    rw [isOn, beq_eq_false_iff_ne]
    intro same
    exact ne_empty_of_isName proper (String.toList_eq_nil_iff.mp same.symm)
  rw [linesOn, splitOn_lines unbroken, List.filter_append, List.filter_singleton, unnamed,
    List.filter_flatMap]
  have filtered
      {other : Family}
      (present : other ∈ families) :
      (familyLines other).filter (isOn family.name) =
        if other.name = family.name then [sampleLine other] else [] :=
    filter_familyLines (registered.named other present) proper
  rw [List.flatMap_congr (fun other present => filtered present),
    flatMap_of_name registered.distinct member]
  rfl

theorem exists_text_of_registered
    (registered : Registered families) :
    ∃ text, text? families = some text ∧
      ∀ family ∈ families, family.count.toNat < Exposition.doubleLimit →
        TellsOnce text family.name family.count.toNat := by
  have named : families.all (fun family => family.name ≠ "") = true := by
    rw [List.all_eq_true]
    intro family member
    exact decide_eq_true (ne_empty_of_isName (registered.named family member))
  refine ⟨_, if_pos named, ?_⟩
  intro family member small
  refine ⟨_, linesOn_text registered member, ?_⟩
  rw [nearestDouble_of_lt small, Decimal.read?_numeral]

end Families

/-! ## The compact object -/

theorem within?_enclosed
    (opening closing : Char)
    (text : List Char) :
    within? opening closing (opening :: text ++ [closing]) = some text := by
  simp [within?]

section Members

variable {member : String × UInt64}

theorem not_mem_of_isWord
    {name : String}
    {symbol : Char}
    (plain : isWord name = true)
    (separates : (symbol.isAlpha || symbol == '_') = false) :
    symbol ∉ name.toList := by
  intro present
  have allowed := List.all_eq_true.mp plain symbol present
  rw [separates] at allowed
  cases allowed

theorem memberText_eq
    (member : String × UInt64) :
    memberText member =
      ('"' :: member.1.toList ++ ['"']) ++ ':' :: Decimal.numeral member.2.toNat := by
  simp [memberText]

theorem not_mem_memberText
    (plain : isWord member.1 = true) :
    ',' ∉ memberText member := by
  have unnamed : ',' ∉ member.1.toList := not_mem_of_isWord plain (by decide)
  have unnumbered : ',' ∉ Decimal.numeral member.2.toNat :=
    Decimal.not_mem_numeral (by decide) _
  simp [memberText_eq, unnamed, unnumbered]

theorem readMember?_memberText
    (plain : isWord member.1 = true) :
    readMember? (memberText member) = some (member.1.toList, member.2.toNat) := by
  have unnamed : ':' ∉ member.1.toList := not_mem_of_isWord plain (by decide)
  have unnumbered : ':' ∉ Decimal.numeral member.2.toNat :=
    Decimal.not_mem_numeral (by decide) _
  have parts :
      (memberText member).splitOn ':' =
        ['"' :: member.1.toList ++ ['"'], Decimal.numeral member.2.toNat] :=
    splitOn_eq_pair_iff.mpr ⟨memberText_eq member, by simp [unnamed], unnumbered⟩
  rw [readMember?, parts]
  simp only [within?_enclosed, Decimal.read?_numeral]
  rfl

theorem mapM_readMember?
    {members : List (String × UInt64)}
    (plain : ∀ member ∈ members, isWord member.1 = true) :
    (members.map memberText).mapM readMember? =
      some (members.map (fun member => (member.1.toList, member.2.toNat))) := by
  induction members with
  | nil => rfl
  | cons first rest ih =>
      rw [List.map_cons, List.mapM_cons, readMember?_memberText (plain first List.mem_cons_self),
        ih (fun member present => plain member (List.mem_cons_of_mem first present))]
      rfl

theorem readObject?_object
    {members : List (String × UInt64)}
    (written : members ≠ [])
    (plain : ∀ member ∈ members, isWord member.1 = true) :
    readObject? (object members) =
      some (members.map (fun member => (member.1.toList, member.2.toNat))) := by
  have apart : ∀ text ∈ members.map memberText, ',' ∉ text := by
    intro text present
    rcases List.mem_map.mp present with ⟨member, listed, rfl⟩
    exact not_mem_memberText (plain member listed)
  have parts :
      ([','].intercalate (members.map memberText)).splitOn ',' = members.map memberText :=
    List.splitOn_intercalate ',' apart (by simpa using written)
  rw [readObject?, object, within?_enclosed]
  change List.mapM readMember? (List.splitOn ',' _) = _
  rw [parts, mapM_readMember? plain]

end Members

end Exposition

/-- What the standard encoders write can be read. -/
theorem Encoders.standard_faithful :
    Encoders.standard.Faithful where
  exposition _ registered := Exposition.exists_text_of_registered registered
  object _ written plain := Exposition.readObject?_object written plain

end DnsOverQuic.Gateway
