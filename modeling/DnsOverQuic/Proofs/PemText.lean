import DnsOverQuic.Identity.Pem
import DnsOverQuic.Proofs.UniqueKeys
import Mathlib.Data.List.Basic

/-!
# Files with certificates and keys, written

Base64 is read as what was written with it, and a section as what its label
says of its content, however its lines are broken and whatever stands between
sections.  So every sequence of items is that of some file, as far as nothing
follows a malformed section, where reading ends.
-/

namespace DnsOverQuic

/-! ## Base64 -/

namespace Text.Base64

/-- What holds of all numbers of eight bits holds of all octets. -/
theorem forall_octet
    {property : UInt8 → Prop}
    (all : ∀ number : Fin 256, property (.ofFin number))
    (octet : UInt8) :
    property octet :=
  all octet.toFin

/-- A symbol as an octet. -/
def octetOf
    (symbol : Char) :
    UInt8 :=
  .ofNat symbol.toNat

/-- A value of six bits is read from its symbol. -/
theorem value?_symbol
    (value : UInt8) :
    value >>> 6 = 0 → value? (octetOf (symbol value)) = some value := by
  revert value
  exact forall_octet (by decide +kernel)

section Bits

variable
    (first second third : UInt8)

theorem bits_of_first :
    first >>> 2 >>> 6 = 0 ∧ (first &&& 0x03) <<< 4 >>> 6 = 0 ∧
      (first &&& 0x03) <<< 4 <<< 4 = 0 ∧
      first >>> 2 <<< 2 ||| (first &&& 0x03) <<< 4 >>> 4 = first := by
  revert first
  exact forall_octet (by decide +kernel)

theorem bits_of_second :
    second >>> 4 >>> 6 = 0 ∧ (second &&& 0x0f) <<< 2 >>> 6 = 0 ∧
      second >>> 4 >>> 4 = 0 ∧ (second &&& 0x0f) <<< 2 <<< 6 = 0 ∧
      second >>> 4 <<< 4 ||| (second &&& 0x0f) <<< 2 >>> 2 = second := by
  revert second
  exact forall_octet (by decide +kernel)

theorem bits_of_third :
    third >>> 6 >>> 6 = 0 ∧ (third &&& 0x3f) >>> 6 = 0 ∧ third >>> 6 >>> 2 = 0 ∧
      third >>> 6 <<< 6 ||| third &&& 0x3f = third := by
  revert third
  exact forall_octet (by decide +kernel)

/-- The values that three octets are written with have six bits. -/
theorem sixBits :
    ((first &&& 0x03) <<< 4 ||| second >>> 4) >>> 6 = 0 ∧
      ((second &&& 0x0f) <<< 2 ||| third >>> 6) >>> 6 = 0 := by
  rcases bits_of_first first with ⟨-, left, -, -⟩
  rcases bits_of_second second with ⟨right, next, -, -, -⟩
  rcases bits_of_third third with ⟨last, -, -, -⟩
  rw [UInt8.shiftRight_or, UInt8.shiftRight_or, left, right, next, last]
  exact ⟨UInt8.or_self, UInt8.or_self⟩

theorem firstOctet_eq :
    firstOctet (first >>> 2) ((first &&& 0x03) <<< 4 ||| second >>> 4) = first := by
  rcases bits_of_first first with ⟨-, -, -, whole⟩
  rcases bits_of_second second with ⟨-, -, gone, -, -⟩
  rw [firstOctet, UInt8.shiftRight_or, gone, UInt8.or_zero, whole]

theorem secondOctet_eq :
    secondOctet ((first &&& 0x03) <<< 4 ||| second >>> 4)
      ((second &&& 0x0f) <<< 2 ||| third >>> 6) = second := by
  rcases bits_of_first first with ⟨-, -, gone, -⟩
  rcases bits_of_second second with ⟨-, -, -, -, whole⟩
  rcases bits_of_third third with ⟨-, -, none, -⟩
  rw [secondOctet, UInt8.shiftLeft_or, UInt8.shiftRight_or, gone, none, UInt8.zero_or,
    UInt8.or_zero, whole]

theorem thirdOctet_eq :
    thirdOctet ((second &&& 0x0f) <<< 2 ||| third >>> 6) (third &&& 0x3f) = third := by
  rcases bits_of_second second with ⟨-, -, -, gone, -⟩
  rcases bits_of_third third with ⟨-, -, -, whole⟩
  rw [thirdOctet, UInt8.shiftLeft_or, gone, UInt8.zero_or, whole]

end Bits

/-- What has a value is no padding. -/
theorem ne_padding
    {octet value : UInt8}
    (read : value? octet = some value) :
    octet ≠ 61 := by
  rintro rfl
  cases read

/-- Symbols are read as the octets that they were written for. -/
theorem readSymbols?_write
    (octets : List UInt8) :
    readSymbols? ((write octets).map octetOf) = some octets := by
  fun_induction write octets with
  | case1 => rfl
  | case2 first =>
      rcases bits_of_first first with ⟨front, back, -, whole⟩
      have padding : octetOf '=' = 61 := rfl
      simp only [List.map_cons, List.map_nil, padding]
      rw [readSymbols?]
      simp [value?_symbol _ front, value?_symbol _ back, firstOctet, whole]
  | case3 first second =>
      rcases bits_of_first first with ⟨front, -, -, -⟩
      rcases sixBits first second 0 with ⟨next, -⟩
      rcases bits_of_second second with ⟨-, back, -, -, -⟩
      have readThird := value?_symbol _ back
      have padding : octetOf '=' = 61 := rfl
      have whole : secondOctet ((first &&& 0x03) <<< 4 ||| second >>> 4)
          ((second &&& 0x0f) <<< 2) = second := by
        simpa using secondOctet_eq first second 0
      simp only [List.map_cons, List.map_nil, padding]
      rw [readSymbols?]
      · simp [value?_symbol _ front, value?_symbol _ next, readThird, firstOctet_eq, whole]
      · exact ne_padding readThird
  | case4 first second third rest inductive_step =>
      rcases bits_of_first first with ⟨front, -, -, -⟩
      rcases sixBits first second third with ⟨next, later⟩
      rcases bits_of_third third with ⟨-, back, -, -⟩
      have readFirst := value?_symbol _ front
      have readSecond := value?_symbol _ next
      have readThird := value?_symbol _ later
      have readFourth := value?_symbol _ back
      simp only [List.map_cons]
      rw [readSymbols?]
      · simp [readFirst, readSecond, readThird, readFourth, inductive_step, firstOctet_eq,
          secondOctet_eq, thirdOctet_eq]
      · exact fun padding _ _ => ne_padding readThird padding
      · exact fun padding _ => ne_padding readFourth padding

/-- Neither a blank nor a dash. -/
def IsPlain
    (octet : UInt8) :
    Prop :=
  isBlank octet = false ∧ octet ≠ 45

theorem isPlain_symbol
    (value : UInt8) :
    IsPlain (octetOf (symbol value)) := by
  revert value
  unfold IsPlain
  exact forall_octet (by decide +kernel)

/-- What is written is plain. -/
theorem isPlain_write
    (octets : List UInt8) :
    ∀ octet ∈ (write octets).map octetOf, IsPlain octet := by
  have padding : IsPlain (octetOf '=') := ⟨rfl, by decide⟩
  fun_induction write octets with
  | case1 => simp
  | case2 | case3 => simp [isPlain_symbol, padding]
  | case4 first second third rest inductive_step =>
      simp only [List.map_cons, List.forall_mem_cons]
      exact ⟨isPlain_symbol _, isPlain_symbol _, isPlain_symbol _, isPlain_symbol _,
        inductive_step⟩

/-- Octets are read as those that they were written for. -/
theorem read?_write
    (octets : List UInt8) :
    read? ((write octets).map octetOf) = some octets := by
  have kept : ((write octets).map octetOf).filter (fun octet => !isBlank octet) =
      (write octets).map octetOf := by
    apply List.filter_eq_self.mpr
    intro octet among
    rw [(isPlain_write octets octet among).1]
    rfl
  rw [read?, kept, readSymbols?_write]

end Text.Base64

/-! ## Sections -/

namespace Identity.Pem

open Text

/-- The line that begins a section. -/
def beginLine
    (label : String) :
    List UInt8 :=
  beginMark ++ ascii label ++ dashes

/-- The line that ends a section. -/
def endLine
    (label : String) :
    List UInt8 :=
  endMark ++ ascii label ++ dashes

/-- Lines that have the content of a section, broken anywhere. -/
def Breaks
    (content : List UInt8)
    (lines : List (List UInt8)) :
    Prop :=
  lines.flatten = (Base64.write content).map Base64.octetOf

/-- Lines, and the items of the sections in them. -/
inductive Written :
    List (List UInt8) → List Item → Prop where
  | nil :
      Written [] []
  | outside
      {line : List UInt8}
      {lines : List (List UInt8)}
      {items : List Item}
      (plain : beginMark.isPrefixOf line = false)
      (rest : Written lines items) :
      Written (line :: lines) items
  | complete
      {label : String}
      {interpret : List UInt8 → Item}
      {content : List UInt8}
      {body lines : List (List UInt8)}
      {items : List Item}
      (known : (label, interpret) ∈ interpretations)
      (breaks : Breaks content body)
      (rest : Written lines items) :
      Written (beginLine label :: body ++ endLine label :: lines) (interpret content :: items)
  | cut
      {label : String}
      {interpret : List UInt8 → Item}
      {body : List (List UInt8)}
      (known : (label, interpret) ∈ interpretations)
      (undashed : ∀ line ∈ body, 45 ∉ line) :
      Written (beginLine label :: body) [.malformed]

/-! ## Reading what is written -/

/-- A label is read if it ends in neither a dash nor a blank. -/
theorem label?_of_last
    {front : List UInt8}
    {last : UInt8}
    (dash : last ≠ 45)
    (blank : last ≠ 32) :
    label? (beginMark ++ (front ++ [last]) ++ dashes) = some (front ++ [last]) := by
  have trailing : ∀ octet ∈ dashes.reverse, (octet == 45 || octet == 32) = true := by
    decide +kernel
  have taken :
      (beginMark ++ (front ++ [last]) ++ dashes).reverse.takeWhile
        (fun octet => octet == 45 || octet == 32) = dashes.reverse := by
    simp only [List.reverse_append, List.reverse_singleton, List.append_assoc]
    rw [List.takeWhile_append_of_pos trailing]
    simp [dash, blank]
  have trailer : dashes.dropWhile (· == 32) = dashes := by
    decide +kernel
  have five : dashes.count 45 = 5 := by
    decide +kernel
  simp only [label?, taken, List.reverse_reverse, trailer, five, if_true, List.length_append,
    Nat.add_sub_cancel, Option.some.injEq]
  rw [← List.length_append, ← List.length_append, List.take_left, List.drop_left]

section

variable
    {label : String}
    {interpret : List UInt8 → Item}
    {content line : List UInt8}
    {body lines : List (List UInt8)}

/-- The label of a line that begins a section is read from it. -/
theorem label?_beginLine
    (known : (label, interpret) ∈ interpretations) :
    label? (beginLine label) = some (ascii label) := by
  have ends : ∀ entry ∈ interpretations,
      (ascii entry.1).getLast?.any (fun last => last != 45 && last != 32) = true := by
    decide +kernel
  rcases (Option.any_eq_true _ _).mp (ends _ known) with ⟨last, found, plain⟩
  rcases List.getLast?_eq_some_iff.mp found with ⟨front, whole⟩
  simp only [Bool.and_eq_true, bne_iff_ne] at plain
  rw [beginLine, whole]
  exact label?_of_last plain.1 plain.2

theorem itemOf_known
    (known : (label, interpret) ∈ interpretations) :
    itemOf (ascii label) ((Base64.write content).map Base64.octetOf) = interpret content := by
  have distinct : (interpretations.map (fun entry => ascii entry.1)).Nodup := by
    decide +kernel
  have found : interpretations.find? (fun entry => ascii entry.1 == ascii label) =
      some (label, interpret) := by
    apply find?_of_unique known (beq_self_eq_true (ascii label))
    intro other among same
    exact List.inj_on_of_nodup_map distinct among known (beq_iff_eq.mp same)
  simp only [itemOf, found, Base64.read?_write]

theorem isPrefixOf_beginLine :
    beginMark.isPrefixOf (beginLine label) = true := by
  rw [List.isPrefixOf_iff_prefix, beginLine, List.append_assoc]
  exact List.prefix_append beginMark _

/-- No line without dashes begins or ends a section. -/
theorem isPrefixOf_of_undashed
    {mark : List UInt8}
    (undashed : 45 ∉ line)
    (dash : mark.head? = some 45) :
    mark.isPrefixOf line = false := by
  cases mark with
  | nil => cases dash
  | cons first mark =>
      cases dash
      cases line with
      | nil => rfl
      | cons octet line =>
          have other : octet ≠ 45 := fun same => undashed (same ▸ List.mem_cons_self)
          rw [List.isPrefixOf, beq_eq_false_iff_ne.mpr other.symm, Bool.false_and]

theorem isPrefixOf_endLine :
    beginMark.isPrefixOf (endLine label) = false := by
  have begins : beginMark = [45, 45, 45, 45, 45, 66, 69, 71, 73, 78, 32] := by
    decide +kernel
  have ends : endMark = [45, 45, 45, 45, 45, 69, 78, 68, 32] := by
    decide +kernel
  rw [endLine, begins, ends]
  rfl

theorem ends_endLine :
    ends (ascii label) (endLine label) = true :=
  List.isPrefixOf_iff_prefix.mpr List.prefix_rfl

/-- No section that is complete is malformed. -/
theorem interpret_ne_malformed
    (known : (label, interpret) ∈ interpretations) :
    interpret content ≠ .malformed := by
  simp only [interpretations, List.mem_cons, Prod.mk.injEq, List.not_mem_nil, or_false] at known
  rcases known with ⟨-, rfl⟩ | ⟨-, rfl⟩ | ⟨-, rfl⟩ | ⟨-, rfl⟩ | ⟨-, rfl⟩ | ⟨-, rfl⟩ | ⟨-, rfl⟩ |
    ⟨-, rfl⟩ <;> exact Item.noConfusion

/-- There are no dashes in the content of a section. -/
theorem Breaks.undashed
    (breaks : Breaks content body) :
    ∀ line ∈ body, 45 ∉ line := by
  intro line among dash
  have written : (45 : UInt8) ∈ (Base64.write content).map Base64.octetOf := by
    rw [← breaks]
    exact List.mem_flatten.mpr ⟨line, among, dash⟩
  exact (Base64.isPlain_write content _ written).2 rfl

/-- Lines without dashes belong to the section around them. -/
theorem readItems_body
    {read : List (List UInt8)}
    (name : List UInt8)
    (undashed : ∀ line ∈ body, 45 ∉ line) :
    readItems (some name) read (body ++ lines) =
      readItems (some name) (body.reverse ++ read) lines := by
  induction body generalizing read with
  | nil => rfl
  | cons line body inductive_step =>
      have here := undashed line List.mem_cons_self
      have begins := isPrefixOf_of_undashed here (show beginMark.head? = some 45 from rfl)
      have ends : ends name line = false :=
        isPrefixOf_of_undashed here (by rfl)
      rw [List.cons_append, readItems]
      simp only [begins, ends, Bool.false_eq_true, if_false]
      rw [inductive_step (fun other among => undashed other (List.mem_cons_of_mem _ among)),
        List.reverse_cons, List.append_assoc, List.singleton_append]

/-- Behind a line that begins a section its label is known. -/
theorem readItems_beginLine
    (known : (label, interpret) ∈ interpretations) :
    readItems none [] (beginLine label :: lines) = readItems (some (ascii label)) [] lines := by
  rw [readItems]
  simp only [isPrefixOf_beginLine, if_true, label?_beginLine known]

/-- A section is read as what its label says of its content. -/
theorem readItems_section
    (known : (label, interpret) ∈ interpretations)
    (breaks : Breaks content body) :
    readItems none [] (beginLine label :: body ++ endLine label :: lines) =
      interpret content :: readItems none [] lines := by
  have item : itemOf (ascii label) (body.reverse ++ []).reverse.flatten = interpret content := by
    rw [List.append_nil, List.reverse_reverse, breaks]
    exact itemOf_known known
  rw [List.cons_append, readItems_beginLine known, readItems_body _ breaks.undashed, readItems]
  simp only [isPrefixOf_endLine, Bool.false_eq_true, if_false, ends_endLine, if_true, item]
  split
  next malformed => exact absurd malformed (interpret_ne_malformed known)
  next => rfl

end

/-- Lines are read as the items of the sections in them. -/
theorem Written.readItems_eq
    {lines : List (List UInt8)}
    {items : List Item}
    (written : Written lines items) :
    readItems none [] lines = items := by
  induction written with
  | nil => rfl
  | outside plain rest inductive_step =>
      rw [readItems]
      simp only [plain, Bool.false_eq_true, if_false]
      exact inductive_step
  | complete known breaks rest inductive_step =>
      rw [readItems_section known breaks, inductive_step]
  | @cut label interpret body known undashed =>
      rw [readItems_beginLine known, ← List.append_nil body, readItems_body _ undashed]
      rfl

/-! ## Files for items -/

/-- No octet of a line ends it. -/
def IsUnbroken
    (line : List UInt8) :
    Prop :=
  ∀ octet ∈ line, octet ≠ 10 ∧ octet ≠ 13

theorem IsUnbroken.append
    {front back : List UInt8}
    (unbroken : IsUnbroken front)
    (also : IsUnbroken back) :
    IsUnbroken (front ++ back) := by
  intro octet among
  rcases List.mem_append.mp among with early | late
  · exact unbroken octet early
  · exact also octet late

/-- The lines around a section are not broken. -/
theorem unbroken_of_known
    {label : String}
    {interpret : List UInt8 → Item}
    (known : (label, interpret) ∈ interpretations) :
    IsUnbroken (beginLine label) ∧ IsUnbroken (endLine label) := by
  have labels : ∀ entry ∈ interpretations, IsUnbroken (ascii entry.1) := by
    unfold IsUnbroken
    decide +kernel
  have begins : IsUnbroken beginMark := by
    unfold IsUnbroken
    decide +kernel
  have ends : IsUnbroken endMark := by
    unfold IsUnbroken
    decide +kernel
  have trails : IsUnbroken dashes := by
    unfold IsUnbroken
    decide +kernel
  have inside := labels _ known
  exact ⟨(begins.append inside).append trails, (ends.append inside).append trails⟩

/-- The text with the given lines. -/
def textOf
    (lines : List (List UInt8)) :
    List UInt8 :=
  lines.flatMap (· ++ [10])

/-- A text has the lines that it was made of, and an empty one at its end. -/
theorem lines_textOf
    {written : List (List UInt8)}
    (unbroken : ∀ line ∈ written, IsUnbroken line) :
    lines (textOf written) = written ++ [[]] := by
  induction written with
  | nil => rfl
  | cons line written inductive_step =>
      have rest := inductive_step (fun other among => unbroken other (List.mem_cons_of_mem _ among))
      have inside : ∀ octet ∈ line, (octet == 10 || octet == 13) = false := by
        intro octet among
        simpa using unbroken line List.mem_cons_self octet among
      rw [lines, textOf, List.flatMap_cons, List.append_assoc, List.singleton_append,
        List.splitOnP_append_cons_of_forall_mem inside 10 rfl, List.cons_append]
      exact congrArg (line :: ·) rest

/-- A section with a label that says what its content is. -/
structure Section where
  label : String
  interpret : List UInt8 → Item
  content : List UInt8
  known : (label, interpret) ∈ interpretations

namespace Section

/-- What the section is read as. -/
def item
    (part : Section) :
    Item :=
  part.interpret part.content

/-- The section with its content in one line. -/
def lines
    (part : Section) :
    List (List UInt8) :=
  [beginLine part.label, (Base64.write part.content).map Base64.octetOf, endLine part.label]

theorem unbroken_lines
    (part : Section) :
    ∀ line ∈ part.lines, IsUnbroken line := by
  have body : IsUnbroken ((Base64.write part.content).map Base64.octetOf) := by
    intro octet among
    have plain := (Base64.isPlain_write part.content octet among).1
    constructor
    · rintro rfl
      cases plain
    · rintro rfl
      cases plain
  rcases unbroken_of_known part.known with ⟨begins, ends⟩
  simp only [lines, List.forall_mem_cons]
  exact ⟨begins, body, ends, by simp⟩

end Section

/-- Every item that is not malformed is that of a section. -/
theorem exists_section
    {item : Item}
    (sound : item ≠ .malformed) :
    ∃ part : Section, part.item = item := by
  cases item with
  | certificate octets =>
      exact ⟨⟨"CERTIFICATE", .certificate, octets, by simp [interpretations]⟩, rfl⟩
  | key form octets =>
      cases form with
      | pkcs1 => exact ⟨⟨"RSA PRIVATE KEY", .key .pkcs1, octets, by simp [interpretations]⟩, rfl⟩
      | pkcs8 => exact ⟨⟨"PRIVATE KEY", .key .pkcs8, octets, by simp [interpretations]⟩, rfl⟩
      | sec1 => exact ⟨⟨"EC PRIVATE KEY", .key .sec1, octets, by simp [interpretations]⟩, rfl⟩
  | other => exact ⟨⟨"PUBLIC KEY", fun _ => .other, [], by simp [interpretations]⟩, rfl⟩
  | malformed => exact absurd rfl sound

/-- The lines of a file with sections, and with the beginning of another one if it is cut short. -/
def documentLines
    (sections : List Section)
    (isCut : Bool) :
    List (List UInt8) :=
  sections.flatMap Section.lines ++ if isCut then [beginLine "CERTIFICATE"] else []

/-- The items of such a file. -/
def documentItems
    (sections : List Section)
    (isCut : Bool) :
    List Item :=
  sections.map Section.item ++ if isCut then [.malformed] else []

theorem certificate_known :
    ("CERTIFICATE", Item.certificate) ∈ interpretations := by
  simp [interpretations]

theorem written_documentLines
    (sections : List Section)
    (isCut : Bool) :
    Written (documentLines sections isCut ++ [[]]) (documentItems sections isCut) := by
  induction sections with
  | nil =>
      cases isCut with
      | false => exact .outside rfl .nil
      | true => exact .cut certificate_known (by simp)
  | cons part sections inductive_step =>
      have breaks : Breaks part.content [(Base64.write part.content).map Base64.octetOf] := by
        rw [Breaks, List.flatten_singleton]
      exact .complete part.known breaks inductive_step

theorem unbroken_documentLines
    (sections : List Section)
    (isCut : Bool) :
    ∀ line ∈ documentLines sections isCut, IsUnbroken line := by
  intro line among
  rcases List.mem_append.mp among with inside | last
  · rcases List.mem_flatMap.mp inside with ⟨part, -, here⟩
    exact part.unbroken_lines line here
  · cases isCut with
    | false => cases last
    | true =>
        rw [List.mem_singleton.mp last]
        exact (unbroken_of_known certificate_known).1

/-- A file with sections is read as the items of its sections. -/
theorem items_document
    (sections : List Section)
    (isCut : Bool) :
    items (textOf (documentLines sections isCut)) = documentItems sections isCut := by
  rw [items, lines_textOf (unbroken_documentLines sections isCut),
    (written_documentLines sections isCut).readItems_eq]

/-- An item that is not malformed may stand before any others. -/
theorem not_mem_dropLast_cons_iff
    {item : Item}
    {items : List Item}
    (sound : item ≠ .malformed) :
    .malformed ∉ (item :: items).dropLast ↔ .malformed ∉ items.dropLast := by
  cases items with
  | nil => simp
  | cons next items => simp [Ne.symm sound]

/-- Items with nothing behind a malformed one are those of a file with sections. -/
theorem exists_document
    {sequence : List Item}
    (sound : .malformed ∉ sequence.dropLast) :
    ∃ sections isCut, documentItems sections isCut = sequence := by
  induction sequence with
  | nil => exact ⟨[], false, rfl⟩
  | cons item sequence inductive_step =>
      by_cases malformed : item = .malformed
      · subst malformed
        cases sequence with
        | nil => exact ⟨[], true, rfl⟩
        | cons next sequence => simp at sound
      · rcases inductive_step ((not_mem_dropLast_cons_iff malformed).mp sound) with
          ⟨sections, isCut, rfl⟩
        rcases exists_section malformed with ⟨part, rfl⟩
        exact ⟨part :: sections, isCut, rfl⟩

/-- Reading ends at a malformed item. -/
theorem malformed_not_mem_dropLast
    (within : Option (List UInt8))
    (content lines : List (List UInt8)) :
    .malformed ∉ (readItems within content lines).dropLast := by
  fun_induction readItems within content lines with
  | case1 => exact List.not_mem_nil
  | case2 => exact List.not_mem_nil
  | case3 within content line rest begins label found inductive_step => exact inductive_step
  | case4 => exact List.not_mem_nil
  | case5 content line rest begins inductive_step => exact inductive_step
  | case6 => exact List.not_mem_nil
  | case7 content line rest begins label ends sound inductive_step =>
      rw [not_mem_dropLast_cons_iff sound]
      exact inductive_step
  | case8 content line rest begins label ends inductive_step => exact inductive_step

/-- The sequences of items that files have are those in which nothing follows a malformed one. -/
theorem exists_items_eq_iff
    {sequence : List Item} :
    (∃ octets, items octets = sequence) ↔ .malformed ∉ sequence.dropLast := by
  constructor
  · rintro ⟨octets, rfl⟩
    exact malformed_not_mem_dropLast none [] (lines octets)
  · intro sound
    rcases exists_document sound with ⟨sections, isCut, rfl⟩
    exact ⟨_, items_document sections isCut⟩

end Identity.Pem

end DnsOverQuic
