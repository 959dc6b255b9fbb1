import DnsOverQuic.Dns.Internationalised
import DnsOverQuic.Dns.Message
import DnsOverQuic.Text.Base64
import DnsOverQuic.Text.Hexadecimal
import DnsOverQuic.Text.Utf8

/-!
# Messages in text

How names, questions and records are shown.  Octets of a label that are not
plain label symbols are escaped, so a name takes one line whatever octets its
labels have.  Nothing else is escaped: the strings of descriptive texts,
rewriting rules, properties and service parameters are shown as they are.
-/

namespace DnsOverQuic.Dns

open Text

namespace Presentation

/-- The character with the code of an octet. -/
def symbolOf
    (octet : UInt8) :
    Char :=
  Char.ofNat octet.toNat

/-- True if an octet stands in a label as it is, at its front or further on. -/
def isPlain
    (front : Bool)
    (octet : UInt8) :
    Bool :=
  let symbol := symbolOf octet
  symbol.isAlphanum || symbol == '_' || symbol == (if front then '*' else '-')

/-- The octal digit of a value below eight. -/
def octalDigit
    (value : UInt8) :
    Char :=
  Char.ofNat ('0'.toNat + value.toNat)

/-- An octet of a label: as it is, behind a backslash, or in octal. -/
def octetText
    (front : Bool)
    (octet : UInt8) :
    List Char :=
  if isPlain front octet then [symbolOf octet]
  else if 0x20 < octet ∧ octet < 0x7f then ['\\', symbolOf octet]
  else ['\\', octalDigit (octet >>> 6), octalDigit (octet >>> 3 &&& 7), octalDigit (octet &&& 7)]

/-- The octets of a label, escaped where necessary. -/
def escaped :
    Label → List Char
  | [] => []
  | first :: rest => octetText true first ++ rest.flatMap (octetText false)

/-- A label: the internationalised label that it is the ASCII form of, or its octets. -/
def labelText
    (label : Label) :
    List Char :=
  (Internationalised.ofMarked? (label.map symbolOf)).getD (escaped label)

/-- Texts with single spaces between them. -/
def spaced
    (texts : List (List Char)) :
    List Char :=
  [' '].intercalate texts

/-- A 32-bit word as a signed decimal numeral. -/
def signedNumeral
    (word : UInt32) :
    List Char :=
  if word < 0x80000000 then
    Decimal.numeral word.toNat
  else
    '-' :: Decimal.numeral (0x100000000 - word.toNat)

end Presentation

open Presentation

/-- The text of a name. -/
def Name.text
    (name : Name) :
    List Char :=
  ['.'].intercalate (name.labels.map labelText) ++ (if name.absolute then ['.'] else [])

/-- The text of a name in which every label is shown by its octets. -/
def Name.asciiText
    (name : Name) :
    List Char :=
  ['.'].intercalate (name.labels.map escaped) ++ (if name.absolute then ['.'] else [])

/-- The text of a question. -/
def Question.text
    (question : Question) :
    List Char :=
  spaced [question.name.text, question.recordClass.text.toList, question.type.text.toList]

namespace Presentation

/-- The words for the option codes that have one. -/
def optionWords : List (UInt16 × String) :=
  [(0, "Zero"), (1, "LLQ"), (2, "UL"), (3, "NSID"), (5, "DAU"), (6, "DHU"), (7, "N3U"),
    (8, "Subnet"), (9, "Expire"), (10, "Cookie"), (11, "Keepalive"), (12, "Padding"),
    (13, "Chain")]

/-- The word for an option code, or the code itself. -/
def optionWord
    (code : UInt16) :
    List Char :=
  match optionWords.lookup code with
  | some word => word.toList
  | none => "Unknown(".toList ++ Decimal.numeral code.toNat ++ [')']

/-- Octets as a list of decimal numerals. -/
def octetList
    (octets : Octets) :
    List Char :=
  '[' :: ", ".toList.intercalate (octets.map (fun octet => Decimal.numeral octet.toNat)) ++ [']']

/-- The word for an address of a family that begins with the given octets. -/
def networkText
    (family : SubnetFamily)
    (network : Octets) :
    List Char :=
  let octet (index : Nat) : UInt8 := network.getD index 0
  match family with
  | .ipv4 => (IPv4.mk (octet 0) (octet 1) (octet 2) (octet 3)).text
  | .ipv6 =>
      let groups := (List.range 8).map (fun index =>
        Octets.toUInt16 (octet (2 * index)) (octet (2 * index + 1)))
      ((IPv6.ofGroups? groups).map IPv6.text).getD []

/-- The data of an option. -/
def optionData :
    EdnsOption → List Char
  | .clientSubnet family sourceLength scopeLength network =>
      "Subnet(ClientSubnet \x7b address: ".toList ++ networkText family network ++
        ", source_prefix: ".toList ++ Decimal.numeral sourceLength.toNat ++
        ", scope_prefix: ".toList ++ Decimal.numeral scopeLength.toNat ++ " \x7d)".toList
  | .uninterpreted code data =>
      "Unknown(".toList ++ Decimal.numeral code.toNat ++ ", ".toList ++ octetList data ++ [')']

/-- An option: the word for its code, and its data. -/
def optionText
    (option : EdnsOption) :
    List Char :=
  '(' :: optionWord option.code ++ ", ".toList ++ optionData option ++ [')']

/-- The options of an extension record. -/
def optionsText
    (options : List EdnsOption) :
    List Char :=
  "OPT \x7b options: [".toList ++ ", ".toList.intercalate (options.map optionText) ++
    "] \x7d".toList

/-- Octets as the text that they are, between quotes. -/
def quoted
    (octets : Octets) :
    List Char :=
  '"' :: Utf8.readLossy octets ++ ['"']

/-- Texts with a comma behind each. -/
def enumerated
    (texts : List (List Char)) :
    List Char :=
  texts.flatMap (· ++ [','])

/-- The words for the keys of service parameters that have one. -/
def keyWords : List (UInt16 × String) :=
  [(0, "mandatory"), (1, "alpn"), (2, "no-default-alpn"), (3, "port"), (4, "ipv4hint"),
    (5, "ech"), (6, "ipv6hint")]

/-- The word for the key of a service parameter, or its number behind a general word. -/
def keyText
    (key : UInt16) :
    List Char :=
  match keyWords.lookup key with
  | some word => word.toList
  | none => (if 65280 ≤ key then "key" else "unknown").toList ++ Decimal.numeral key.toNat

/-- The value of a service parameter. -/
def parameterValue :
    ServiceParameter → List Char
  | .mandatory keys => enumerated (keys.map keyText)
  | .protocols identifiers =>
      enumerated (identifiers.map (fun identifier => Utf8.readLossy identifier.octets))
  | .noDefaultProtocol => []
  | .portNumber number => Decimal.numeral number.toNat
  | .ipv4Hints addresses => enumerated (addresses.map IPv4.text)
  | .encryptedHello configurations => '"' :: Base64.write configurations ++ ['"']
  | .ipv6Hints addresses => enumerated (addresses.map IPv6.text)
  | .uninterpreted _ value => quoted value ++ [',']

/-- A service parameter: its key and its value. -/
def parameterText
    (parameter : ServiceParameter) :
    List Char :=
  keyText parameter.key ++ '=' :: parameterValue parameter

end Presentation

/-- The text of a service binding. -/
def ServiceBinding.text
    (binding : ServiceBinding) :
    List Char :=
  spaced (Decimal.numeral binding.priority.toNat :: binding.target.text ::
    binding.parameters.map parameterText)

/-- The text of the data of a record. -/
def RecordData.text :
    RecordData → List Char
  | absent _ => "UPDATE".toList
  | a address => address.text
  | aaaa address => address.text
  | ns server => server.text
  | cname target => target.text
  | ptr target => target.text
  | aname target => target.text
  | mx preference exchange =>
      spaced [Decimal.numeral preference.toNat, exchange.text]
  | soa primary mailbox serial refresh retry expire minimum =>
      spaced [primary.text, mailbox.text, Decimal.numeral serial.toNat, signedNumeral refresh,
        signedNumeral retry, signedNumeral expire, Decimal.numeral minimum.toNat]
  | srv priority weight portNumber target =>
      spaced [Decimal.numeral priority.toNat, Decimal.numeral weight.toNat,
        Decimal.numeral portNumber.toNat, target.text]
  | txt strings => strings.flatMap (fun counted => Utf8.readLossy counted.octets)
  | hinfo processor system =>
      spaced [Utf8.readLossy processor.octets, Utf8.readLossy system.octets]
  | opt options => optionsText options
  | naptr order preference flags services pattern replacement =>
      spaced [Decimal.numeral order.toNat, Decimal.numeral preference.toNat,
        quoted flags.string.octets, quoted services.octets, quoted pattern.octets,
        replacement.text]
  | caa flags tag property =>
      spaced [(if 0x80 ≤ flags then "128" else "0").toList, tag.octets.map symbolOf,
        quoted property]
  | cert kind keyTag algorithm certificate =>
      spaced [Decimal.numeral kind.toNat, Decimal.numeral keyTag.toNat,
        Decimal.numeral algorithm.toNat, Base64.write certificate]
  | sshfp algorithm kind fingerprint =>
      spaced [Decimal.numeral algorithm.toNat, Decimal.numeral kind.toNat,
        Hexadecimal.write fingerprint]
  | tlsa usage selector matching association =>
      spaced [Decimal.numeral usage.toNat, Decimal.numeral selector.toNat,
        Decimal.numeral matching.toNat, Hexadecimal.write association]
  | csync serial flags bitMap =>
      spaced (Decimal.numeral serial.toNat :: Decimal.numeral flags.toNat ::
        bitMap.listed.map (·.text.toList))
  | svcb binding => binding.text
  | https binding => binding.text
  | uninterpreted _ octets => Base64.write octets

namespace Record

/-- The class of a record; the datagram size in its place in an extension record. -/
def classText
    (record : Record) :
    List Char :=
  if record.type = .opt then "OPT".toList else record.recordClass.text.toList

/-- The text of a record. -/
def text
    (record : Record) :
    List Char :=
  spaced [record.owner.text, Decimal.numeral record.lifetime.toNat, record.classText,
    record.type.text.toList, record.data.text]

end Record

end DnsOverQuic.Dns
