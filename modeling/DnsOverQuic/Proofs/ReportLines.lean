import DnsOverQuic.Client.Report
import DnsOverQuic.Dns.Wire.Reading
import DnsOverQuic.Proofs.AddressText
import DnsOverQuic.Proofs.LineEnds
import DnsOverQuic.Proofs.Separators
import Mathlib

/-!
# Lines of the report

Each item of a report ends its line, so there is one line for each item as long as no
item contains a newline itself.  Numerals, words, addresses, options, digests, uninterpreted
data and the escaped labels of names contain none.  Descriptive texts are not escaped: each
newline octet in them begins another line of the report, and what follows it may be
anything, the title of a section included.  The same holds of the newline octets in the
strings of rewriting rules, in the properties of certification authorities, in the
protocols and the uninterpreted parameters of service bindings, and in a label that is
shown in letters.
-/

namespace DnsOverQuic

open Text Dns

namespace Dns

open Presentation

/-! ## Words -/

/-- What a table tells is one of its words, or the word for everything else. -/
theorem getD_lookup_mem
    {α : Type}
    [BEq α]
    (table : List (α × String))
    (key : α)
    (other : String) :
    (table.lookup key).getD other ∈ other :: table.map Prod.snd := by
  induction table with
  | nil => exact List.mem_cons_self
  | cons entry rest ih =>
      rcases entry with ⟨code, word⟩
      rw [List.lookup_cons]
      cases key == code with
      | true => simp
      | false =>
          rcases List.mem_cons.mp ih with same | later
          · rw [same]
            exact List.mem_cons_self
          · exact List.mem_cons_of_mem _ (List.mem_cons_of_mem _ later)

/-- A word that a table has is as plain as all its words. -/
theorem newline_not_mem_of_lookup
    {α : Type}
    [BEq α]
    {table : List (α × String)}
    {key : α}
    {word : String}
    (plain : ∀ entry ∈ table, '\n' ∉ entry.2.toList)
    (found : table.lookup key = some word) :
    '\n' ∉ word.toList := by
  have told := getD_lookup_mem table key ""
  rw [found, Option.getD_some] at told
  rcases List.mem_cons.mp told with rfl | member
  · exact List.not_mem_nil
  · rcases List.mem_map.mp member with ⟨entry, among, rfl⟩
    exact plain entry among

theorem RecordType.newline_not_mem_text
    (type : RecordType) :
    '\n' ∉ type.text.toList := by
  have words : ∀ word ∈ "Unknown" :: mnemonics.map Prod.snd, '\n' ∉ word.toList := by
    decide
  exact words _ (getD_lookup_mem mnemonics type "Unknown")

theorem RecordClass.newline_not_mem_text
    (recordClass : RecordClass) :
    '\n' ∉ recordClass.text.toList := by
  have words : ∀ word ∈ "UNKNOWN" :: mnemonics.map Prod.snd, '\n' ∉ word.toList := by
    decide
  exact words _ (getD_lookup_mem mnemonics recordClass "UNKNOWN")

theorem ResponseCode.newline_not_mem_text
    (response : ResponseCode) :
    '\n' ∉ response.text.toList := by
  have words : ∀ word ∈ "Unknown response code" :: descriptions.map Prod.snd,
      '\n' ∉ word.toList := by
    decide
  exact words _ (getD_lookup_mem descriptions response "Unknown response code")

theorem newline_not_mem_numeral
    (value : Nat) :
    '\n' ∉ Decimal.numeral value :=
  Decimal.not_mem_numeral (by decide) value

theorem newline_not_mem_ipv4
    (address : IPv4) :
    '\n' ∉ address.text :=
  IPv4.not_mem_text (by decide) (by decide) address

theorem newline_not_mem_ipv6
    (address : IPv6) :
    '\n' ∉ address.text :=
  (IPv6.isLiteral_text address).not_mem (by decide) (by decide) (by decide)

namespace Presentation

theorem newline_not_mem_signedNumeral
    (word : UInt32) :
    '\n' ∉ signedNumeral word := by
  unfold signedNumeral
  split <;> simp [newline_not_mem_numeral]

/-! ## Options -/

theorem newline_not_mem_comma :
    '\n' ∉ ", ".toList := by
  decide

theorem newline_not_mem_octetList
    (octets : Octets) :
    '\n' ∉ octetList octets := by
  have numerals : ∀ part ∈ octets.map (fun octet => Decimal.numeral octet.toNat), '\n' ∉ part :=
    List.forall_mem_map.mpr fun octet _ => newline_not_mem_numeral octet.toNat
  unfold octetList
  simp only [List.mem_append, List.mem_cons, not_or,
    newline_not_mem_intercalate newline_not_mem_comma numerals, not_false_eq_true, and_true]
  decide

theorem newline_not_mem_networkText
    (family : SubnetFamily)
    (network : Octets) :
    '\n' ∉ networkText family network := by
  cases family with
  | ipv4 => exact newline_not_mem_ipv4 _
  | ipv6 =>
      unfold networkText
      dsimp only
      generalize IPv6.ofGroups? _ = found
      cases found with
      | none => exact List.not_mem_nil
      | some address => exact newline_not_mem_ipv6 address

theorem newline_not_mem_optionWord
    (code : UInt16) :
    '\n' ∉ optionWord code := by
  unfold optionWord
  cases found : optionWords.lookup code with
  | some word => exact newline_not_mem_of_lookup (by decide) found
  | none =>
      simp only [List.mem_append, not_or, newline_not_mem_numeral, not_false_eq_true, and_true]
      decide

theorem newline_not_mem_optionData
    (option : EdnsOption) :
    '\n' ∉ optionData option := by
  cases option with
  | clientSubnet family sourceLength scopeLength network =>
      unfold optionData
      simp only [List.mem_append, not_or, newline_not_mem_networkText, newline_not_mem_numeral,
        not_false_eq_true, and_true]
      decide
  | uninterpreted code data =>
      unfold optionData
      simp only [List.mem_append, not_or, newline_not_mem_octetList, newline_not_mem_numeral,
        not_false_eq_true, and_true]
      decide

theorem newline_not_mem_optionText
    (option : EdnsOption) :
    '\n' ∉ optionText option := by
  unfold optionText
  simp only [List.mem_append, List.mem_cons, not_or, newline_not_mem_optionWord,
    newline_not_mem_comma, newline_not_mem_optionData, not_false_eq_true, and_true]
  decide

theorem newline_not_mem_optionsText
    (options : List EdnsOption) :
    '\n' ∉ optionsText options := by
  have texts : ∀ part ∈ options.map optionText, '\n' ∉ part :=
    List.forall_mem_map.mpr fun option _ => newline_not_mem_optionText option
  unfold optionsText
  simp only [List.mem_append, not_or, newline_not_mem_intercalate newline_not_mem_comma texts,
    not_false_eq_true, and_true]
  decide

/-! ## Service parameters -/

theorem count_quoted
    (octets : Octets) :
    (quoted octets).count '\n' = octets.count 10 := by
  simp [quoted, Utf8.count_readLossy]

theorem count_enumerated
    (texts : List (List Char)) :
    (enumerated texts).count '\n' = (texts.map (·.count '\n')).sum := by
  simp [enumerated, List.count_flatMap, Function.comp_def]

theorem newline_not_mem_enumerated
    {texts : List (List Char)}
    (plain : ∀ text ∈ texts, '\n' ∉ text) :
    '\n' ∉ enumerated texts := by
  rw [← List.count_eq_zero, count_enumerated, List.sum_eq_zero_iff_forall_eq_nat,
    List.forall_mem_map]
  exact fun text member => List.count_eq_zero_of_not_mem (plain text member)

theorem newline_not_mem_keyText
    (key : UInt16) :
    '\n' ∉ keyText key := by
  unfold keyText
  cases found : keyWords.lookup key with
  | some word => exact newline_not_mem_of_lookup (by decide) found
  | none =>
      simp only [List.mem_append, not_or, newline_not_mem_numeral, not_false_eq_true, and_true]
      split <;> decide

end Presentation

/-! ## Names and records -/

/-- The newlines of a label: its newline octets, where it is shown in letters. -/
def labelNewlines
    (label : Label) :
    Nat :=
  if (Internationalised.ofMarked? (label.map symbolOf)).isSome then label.count 10 else 0

/-- The newlines of a name. -/
def Name.newlines
    (name : Name) :
    Nat :=
  (name.labels.map labelNewlines).sum

/-- The newlines of a service parameter: those of the octets that it shows as a text. -/
def ServiceParameter.newlines :
    ServiceParameter → Nat
  | protocols identifiers =>
      (identifiers.map (fun identifier => identifier.octets.count 10)).sum
  | uninterpreted _ value => value.count 10
  | mandatory _ | noDefaultProtocol | portNumber _ | ipv4Hints _ | encryptedHello _
  | ipv6Hints _ => 0

/-- The newlines of a service binding. -/
def ServiceBinding.newlines
    (binding : ServiceBinding) :
    Nat :=
  binding.target.newlines + (binding.parameters.map ServiceParameter.newlines).sum

/-- The newlines of the data of a record: those of its names and of its texts. -/
def RecordData.newlines :
    RecordData → Nat
  | ns server => server.newlines
  | cname target => target.newlines
  | ptr target => target.newlines
  | aname target => target.newlines
  | mx _ exchange => exchange.newlines
  | soa primary mailbox _ _ _ _ _ => primary.newlines + mailbox.newlines
  | srv _ _ _ target => target.newlines
  | txt strings => (strings.map (fun counted => counted.octets.count 10)).sum
  | hinfo processor system => processor.octets.count 10 + system.octets.count 10
  | naptr _ _ _ services pattern replacement =>
      services.octets.count 10 + pattern.octets.count 10 + replacement.newlines
  | caa _ _ property => property.count 10
  | svcb binding => binding.newlines
  | https binding => binding.newlines
  | absent _ | a _ | aaaa _ | opt _ | cert _ _ _ _ | sshfp _ _ _ | tlsa _ _ _ _ | csync _ _ _
  | uninterpreted _ _ => 0

/-- The newlines of a record. -/
def Record.newlines
    (record : Record) :
    Nat :=
  record.owner.newlines + record.data.newlines

theorem count_labelText
    (label : Label) :
    (labelText label).count '\n' = labelNewlines label := by
  unfold labelText labelNewlines
  cases marked : Internationalised.ofMarked? (label.map symbolOf) with
  | none => exact List.count_eq_zero_of_not_mem (newline_not_mem_escaped label)
  | some shown =>
      simp only [Option.getD_some, Option.isSome_some, if_true]
      rw [Internationalised.count_ofMarked? marked, count_symbols]

theorem Name.count_text
    (name : Name) :
    name.text.count '\n' = name.newlines := by
  have dot : (if name.absolute then ['.'] else []).count '\n' = 0 := by
    split <;> rfl
  rw [text, List.count_append, dot, Nat.add_zero, count_intercalate (by decide), List.map_map,
    newlines]
  exact congrArg List.sum (List.map_congr_left fun label _ => count_labelText label)

theorem count_spaced
    (texts : List (List Char)) :
    (spaced texts).count '\n' = (texts.map (·.count '\n')).sum :=
  count_intercalate (by decide) texts

theorem Question.count_text
    (question : Question) :
    question.text.count '\n' = question.name.newlines := by
  rw [text, count_spaced]
  simp [Name.count_text, List.count_eq_zero_of_not_mem (RecordClass.newline_not_mem_text _),
    List.count_eq_zero_of_not_mem (RecordType.newline_not_mem_text _)]

theorem ServiceParameter.count_text
    (parameter : ServiceParameter) :
    (parameterText parameter).count '\n' = parameter.newlines := by
  have key : (keyText parameter.key).count '\n' = 0 :=
    List.count_eq_zero_of_not_mem (newline_not_mem_keyText parameter.key)
  rw [parameterText, List.count_append, key, Nat.zero_add, List.count_cons_of_ne (by decide)]
  cases parameter with
  | mandatory keys =>
      exact List.count_eq_zero_of_not_mem (newline_not_mem_enumerated
        (List.forall_mem_map.mpr fun key _ => newline_not_mem_keyText key))
  | protocols identifiers =>
      rw [parameterValue, count_enumerated, List.map_map, newlines]
      exact congrArg List.sum
        (List.map_congr_left fun identifier _ => Utf8.count_readLossy identifier.octets)
  | noDefaultProtocol => rfl
  | portNumber number => exact List.count_eq_zero_of_not_mem (newline_not_mem_numeral _)
  | ipv4Hints addresses =>
      exact List.count_eq_zero_of_not_mem (newline_not_mem_enumerated
        (List.forall_mem_map.mpr fun address _ => newline_not_mem_ipv4 address))
  | encryptedHello configurations =>
      exact List.count_eq_zero_of_not_mem (by
        simp [parameterValue, Base64.newline_not_mem_write configurations])
  | ipv6Hints addresses =>
      exact List.count_eq_zero_of_not_mem (newline_not_mem_enumerated
        (List.forall_mem_map.mpr fun address _ => newline_not_mem_ipv6 address))
  | uninterpreted key value => simp [parameterValue, newlines, count_quoted]

theorem ServiceBinding.count_text
    (binding : ServiceBinding) :
    binding.text.count '\n' = binding.newlines := by
  have parameters : (binding.parameters.map parameterText).map (·.count '\n') =
      binding.parameters.map ServiceParameter.newlines := by
    rw [List.map_map]
    exact List.map_congr_left fun parameter _ => parameter.count_text
  rw [text, count_spaced, List.map_cons, List.map_cons, parameters, List.sum_cons, List.sum_cons,
    List.count_eq_zero_of_not_mem (newline_not_mem_numeral _), Nat.zero_add, Name.count_text,
    newlines]

/-- Letters and digits are no newlines. -/
theorem count_eq_zero_of_alphanumeric
    {octets : Octets}
    (plain : octets.all isAlphanumericOctet = true) :
    octets.count 10 = 0 :=
  List.count_eq_zero_of_not_mem fun member =>
    absurd (List.all_eq_true.mp plain 10 member) (by decide)

theorem RecordData.count_text
    (data : RecordData) :
    data.text.count '\n' = data.newlines := by
  have numeral (value : Nat) : (Decimal.numeral value).count '\n' = 0 :=
    List.count_eq_zero_of_not_mem (newline_not_mem_numeral value)
  have signed (word : UInt32) : (signedNumeral word).count '\n' = 0 :=
    List.count_eq_zero_of_not_mem (newline_not_mem_signedNumeral word)
  cases data with
  | absent type => rfl
  | a address => exact List.count_eq_zero_of_not_mem (newline_not_mem_ipv4 address)
  | aaaa address => exact List.count_eq_zero_of_not_mem (newline_not_mem_ipv6 address)
  | ns server => exact server.count_text
  | cname target => exact target.count_text
  | ptr target => exact target.count_text
  | aname target => exact target.count_text
  | mx preference exchange => simp [text, newlines, count_spaced, numeral, Name.count_text]
  | soa primary mailbox => simp [text, newlines, count_spaced, numeral, signed, Name.count_text]
  | srv priority weight portNumber target =>
      simp [text, newlines, count_spaced, numeral, Name.count_text]
  | txt strings =>
      rw [text, List.count_flatMap, newlines]
      exact congrArg List.sum
        (List.map_congr_left fun counted _ => Utf8.count_readLossy counted.octets)
  | hinfo processor system => simp [text, newlines, count_spaced, Utf8.count_readLossy]
  | opt options => exact List.count_eq_zero_of_not_mem (newline_not_mem_optionsText options)
  | naptr order preference flags services pattern replacement =>
      simp [text, newlines, count_spaced, numeral, count_quoted, Name.count_text,
        count_eq_zero_of_alphanumeric flags.plain, Nat.add_assoc]
  | caa flags tag property =>
      have critical : (if 0x80 ≤ flags then "128" else "0").toList.count '\n' = 0 := by
        split <;> decide
      simp [text, newlines, count_spaced, critical, count_quoted, count_symbols,
        count_eq_zero_of_alphanumeric tag.plain]
  | cert kind keyTag algorithm certificate =>
      have shown := List.count_eq_zero_of_not_mem (Base64.newline_not_mem_write certificate)
      simp [text, newlines, count_spaced, numeral, shown]
  | sshfp algorithm kind fingerprint =>
      have shown := List.count_eq_zero_of_not_mem (Hexadecimal.newline_not_mem_write fingerprint)
      simp [text, newlines, count_spaced, numeral, shown]
  | tlsa usage selector matching association =>
      have shown := List.count_eq_zero_of_not_mem (Hexadecimal.newline_not_mem_write association)
      simp [text, newlines, count_spaced, numeral, shown]
  | csync serial flags bitMap =>
      have listed : ((bitMap.listed.map (·.text.toList)).map (·.count '\n')).sum = 0 := by
        rw [List.sum_eq_zero_iff_forall_eq_nat, List.forall_mem_map, List.forall_mem_map]
        exact fun type _ => List.count_eq_zero_of_not_mem type.newline_not_mem_text
      rw [text, count_spaced, List.map_cons, List.map_cons, List.sum_cons, List.sum_cons, numeral,
        numeral, listed]
      rfl
  | svcb binding => exact binding.count_text
  | https binding => exact binding.count_text
  | uninterpreted type octets =>
      exact List.count_eq_zero_of_not_mem (Base64.newline_not_mem_write octets)

theorem Record.count_text
    (record : Record) :
    record.text.count '\n' = record.newlines := by
  have classText : '\n' ∉ record.classText := by
    unfold Record.classText
    split
    · decide
    · exact RecordClass.newline_not_mem_text _
  rw [text, count_spaced]
  simp [Name.count_text, RecordData.count_text, newlines,
    List.count_eq_zero_of_not_mem (newline_not_mem_numeral _),
    List.count_eq_zero_of_not_mem classText,
    List.count_eq_zero_of_not_mem (RecordType.newline_not_mem_text _)]

/-! ## Titles -/

/-- A text that could be the title of a section: it begins with a semicolon and is ASCII. -/
structure IsTitleLike
    (text : List Char) : Prop where
  begins : text.head? = some ';'
  ascii : text.all Internationalised.isAscii = true

/-- A semicolon in front of a label is escaped. -/
theorem head?_octetText
    (octet : UInt8)
    (rest : List Char) :
    (octetText true octet ++ rest).head? ≠ some ';' := by
  unfold octetText
  split
  next plain =>
      intro begins
      have same : symbolOf octet = ';' := Option.some.inj begins
      rw [isPlain, same] at plain
      exact absurd plain (by decide)
  next =>
      split <;> exact fun begins => absurd (Option.some.inj begins) (by decide)

/-- A label that is shown in letters has a letter beyond ASCII. -/
theorem exists_of_ofMarked?
    {text label : List Char}
    (marked : Internationalised.ofMarked? text = some label) :
    ∃ symbol ∈ label, Internationalised.isAscii symbol = false := by
  rcases Option.bind_eq_some_iff.mp marked with ⟨code, -, read⟩
  have letters := (Option.filter_eq_some_iff.mp read).2
  simp only [Bool.and_eq_true, List.any_eq_true] at letters
  rcases letters.1 with ⟨symbol, member, beyond⟩
  exact ⟨symbol, member, by simpa using beyond⟩

theorem not_isTitleLike_labelText
    {label : Label}
    (written : label ≠ [])
    (rest : List Char) :
    ¬IsTitleLike (labelText label ++ rest) := by
  rintro ⟨begins, ascii⟩
  unfold labelText at begins ascii
  cases marked : Internationalised.ofMarked? (label.map symbolOf) with
  | none =>
      rw [marked] at begins
      cases label with
      | nil => exact written rfl
      | cons first others =>
          rw [Option.getD_none, escaped, List.append_assoc] at begins
          exact head?_octetText first _ begins
  | some shown =>
      rw [marked] at ascii
      rcases exists_of_ofMarked? marked with ⟨symbol, member, beyond⟩
      have within := List.all_eq_true.mp ascii symbol (List.mem_append_left rest member)
      cases beyond.symm.trans within

/-- No text that begins with a name and a space is like the title of a section. -/
theorem Name.not_isTitleLike
    (name : Name)
    (rest : List Char) :
    ¬IsTitleLike (name.text ++ ' ' :: rest) := by
  unfold text
  cases labels : name.labels with
  | nil =>
      intro titleLike
      have begins := titleLike.begins
      cases absolute : name.absolute <;> simp [absolute] at begins
  | cons first others =>
      have written : first ≠ [] := by
        have sized := (name.labels_sized first (labels ▸ List.mem_cons_self)).1
        exact List.ne_nil_of_length_pos sized
      cases others with
      | nil =>
          rw [List.map_cons, List.map_nil, List.intercalate_singleton, List.append_assoc]
          exact not_isTitleLike_labelText written _
      | cons next others =>
          rw [List.map_cons, List.map_cons, List.intercalate_cons_cons, List.append_assoc,
            List.append_assoc, List.append_assoc]
          exact not_isTitleLike_labelText written _

theorem Question.not_isTitleLike
    (question : Question) :
    ¬IsTitleLike question.text := by
  rw [text, spaced, List.intercalate_cons_cons, List.append_assoc, List.singleton_append]
  exact question.name.not_isTitleLike _

theorem Record.not_isTitleLike
    (record : Record) :
    ¬IsTitleLike record.text := by
  rw [text, spaced, List.intercalate_cons_cons, List.append_assoc, List.singleton_append]
  exact record.owner.not_isTitleLike _

end Dns

namespace Client.Report

open Dns

/-! ## Items and lines -/

/-- The newlines in the items of a report. -/
def newlines
    (response : Message) :
    Nat :=
  (response.questions.map (fun question => question.name.newlines)).sum +
    ((response.answers ++ response.authorities ++ response.additionals).map
      Record.newlines).sum

end Client.Report

end DnsOverQuic
