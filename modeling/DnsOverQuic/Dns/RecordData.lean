import DnsOverQuic.Address.IPv6
import DnsOverQuic.Dns.Name
import DnsOverQuic.Dns.RecordType

/-!
# Data of records

The data of a record determines the type of the record, so the two cannot
disagree.  Data of a type without an interpretation of its own are octets.

A service binding has parameters in the order of their keys, each key at most
once.  A type bit map lists record types in windows of 256 codes: for each
window its number, the number of its blocks of eight codes, and a bit for each
code.  Both conditions are part of the types.
-/

namespace DnsOverQuic.Dns

/-- A counted octet string, as records of descriptive text carry. -/
structure CharacterString where
  octets : Octets
  length_le : octets.length ≤ 255
deriving DecidableEq

namespace CharacterString

/-- The counted string with the given octets, if there are at most 255. -/
def ofOctets?
    (octets : Octets) :
    Option CharacterString :=
  if length_le : octets.length ≤ 255 then
    some ⟨octets, length_le⟩
  else
    none

end CharacterString

/-- The address family of a client subnet. -/
inductive SubnetFamily where
  | ipv4
  | ipv6
deriving DecidableEq, Inhabited

namespace SubnetFamily

/-- The number of the family on the wire. -/
def number :
    SubnetFamily → UInt16
  | ipv4 => 1
  | ipv6 => 2

/-- The family with the given number. -/
def ofNumber?
    (number : UInt16) :
    Option SubnetFamily :=
  if number = 1 then some ipv4 else if number = 2 then some ipv6 else none

/-- The octets of an address of the family. -/
def addressSize :
    SubnetFamily → Nat
  | ipv4 => 4
  | ipv6 => 16

end SubnetFamily

/-- One option of the extension record. -/
inductive EdnsOption where
  | clientSubnet (family : SubnetFamily) (sourceLength scopeLength : UInt8) (network : Octets)
  | uninterpreted (code : UInt16) (data : Octets)
deriving DecidableEq, Inhabited

namespace EdnsOption

/-- The option code of the client subnet. -/
def clientSubnetCode : UInt16 := 8

/-- The code of the option. -/
def code :
    EdnsOption → UInt16
  | clientSubnet _ _ _ _ => clientSubnetCode
  | uninterpreted code _ => code

/-- The data of the option as it is written. -/
def data :
    EdnsOption → Octets
  | clientSubnet family sourceLength scopeLength network =>
      Octets.ofUInt16 family.number ++ sourceLength :: scopeLength :: network
  | uninterpreted _ data => data

end EdnsOption

/-- True for the octets of ASCII letters and digits. -/
def isAlphanumericOctet
    (octet : UInt8) :
    Bool :=
  (48 ≤ octet && octet ≤ 57) || (65 ≤ octet && octet ≤ 90) || (97 ≤ octet && octet ≤ 122)

/-- The tag of a property of certification authorities. -/
structure PropertyTag where
  octets : Octets
  sized : 1 ≤ octets.length ∧ octets.length ≤ 15
  plain : octets.all isAlphanumericOctet = true
deriving DecidableEq

namespace PropertyTag

/-- The tag with the given octets, if it is admissible. -/
def ofOctets?
    (octets : Octets) :
    Option PropertyTag :=
  if admissible :
      (1 ≤ octets.length ∧ octets.length ≤ 15) ∧ octets.all isAlphanumericOctet = true then
    some ⟨octets, admissible.1, admissible.2⟩
  else
    none

end PropertyTag

/-- The flags of a rewriting rule: letters and digits. -/
structure RewritingFlags where
  string : CharacterString
  plain : string.octets.all isAlphanumericOctet = true
deriving DecidableEq

namespace RewritingFlags

/-- The flags in a counted string, if they are letters and digits. -/
def ofString?
    (string : CharacterString) :
    Option RewritingFlags :=
  if plain : string.octets.all isAlphanumericOctet = true then
    some ⟨string, plain⟩
  else
    none

end RewritingFlags

/-! ## Type bit maps -/

/-- What the next octet of a type bit map is: a window, the number of its blocks, or a block. -/
inductive BitMapState where
  | window
  | length (window : UInt8)
  | block (window : UInt8) (index left : Nat)
deriving DecidableEq, Inhabited

/-- The types whose bits are set in a block. -/
def typesOfBlock
    (window : UInt8)
    (index : Nat)
    (block : UInt8) :
    List RecordType :=
  ((List.range 8).filter (fun bit => block &&& (0x80 >>> UInt8.ofNat bit) ≠ 0)).map
    (fun bit => ⟨UInt16.ofNat (256 * window.toNat + 8 * index + bit)⟩)

/--
Read the types in a bit map.  It may end anywhere.  A window without blocks
has no further octets, and no bit is set behind the blocks that a window has
room for.
-/
def readTypes? :
    BitMapState → Octets → Option (List RecordType)
  | _, [] => some []
  | .window, window :: rest => readTypes? (.length window) rest
  | .length window, length :: rest => readTypes? (.block window 0 length.toNat) rest
  | .block window index left, block :: rest =>
      if left = 0 ∨ 32 ≤ index ∧ block ≠ 0 then
        none
      else
        let state := if left = 1 then .window else .block window (index + 1) (left - 1)
        (readTypes? state rest).map (typesOfBlock window index block ++ ·)

/-- A bit map of record types. -/
structure TypeBitMap where
  octets : Octets
  types : List RecordType
  reads : readTypes? .window octets = some types
deriving DecidableEq

namespace TypeBitMap

/-- The bit map in octets. -/
def ofOctets?
    (octets : Octets) :
    Option TypeBitMap :=
  match reads : readTypes? .window octets with
  | some types => some ⟨octets, types, reads⟩
  | none => none

/-- The types in the order of their codes, each once. -/
def listed
    (bitMap : TypeBitMap) :
    List RecordType :=
  bitMap.types.eraseDups.mergeSort (fun first second => first.code ≤ second.code)

end TypeBitMap

/-! ## Service bindings -/

/-- A parameter of a service binding. -/
inductive ServiceParameter where
  | mandatory (keys : List UInt16)
  | protocols (identifiers : List CharacterString)
  | noDefaultProtocol
  | portNumber (number : UInt16)
  | ipv4Hints (addresses : List IPv4)
  | encryptedHello (configurations : Octets)
  | ipv6Hints (addresses : List IPv6)
  | uninterpreted (key : UInt16) (value : Octets)
deriving DecidableEq, Inhabited

namespace ServiceParameter

/-- The key of the parameter. -/
def key :
    ServiceParameter → UInt16
  | mandatory _ => 0
  | protocols _ => 1
  | noDefaultProtocol => 2
  | portNumber _ => 3
  | ipv4Hints _ => 4
  | encryptedHello _ => 5
  | ipv6Hints _ => 6
  | uninterpreted key _ => key

/-- The value of the parameter as it is written. -/
def value :
    ServiceParameter → Octets
  | mandatory keys => keys.flatMap Octets.ofUInt16
  | protocols identifiers =>
      identifiers.flatMap (fun identifier =>
        UInt8.ofNat identifier.octets.length :: identifier.octets)
  | noDefaultProtocol => []
  | portNumber number => Octets.ofUInt16 number
  | ipv4Hints addresses => addresses.flatMap IPv4.octets
  | encryptedHello configurations => configurations
  | ipv6Hints addresses => addresses.flatMap IPv6.octets
  | uninterpreted _ value => value

end ServiceParameter

/-- What a service offers at a name. -/
structure ServiceBinding where
  priority : UInt16
  target : Name
  parameters : List ServiceParameter
  ascending : parameters.Pairwise (fun first second => first.key < second.key)
deriving DecidableEq

namespace ServiceBinding

/-- The binding with the given parameters, if their keys ascend. -/
def ofParameters?
    (priority : UInt16)
    (target : Name)
    (parameters : List ServiceParameter) :
    Option ServiceBinding :=
  if ascending : parameters.Pairwise (fun first second => first.key < second.key) then
    some ⟨priority, target, parameters, ascending⟩
  else
    none

end ServiceBinding

/-! ## Data -/

/-- The data of a record, which determines its type. -/
inductive RecordData where
  | absent (type : RecordType)
  | a (address : IPv4)
  | aaaa (address : IPv6)
  | ns (server : Name)
  | cname (target : Name)
  | ptr (target : Name)
  | aname (target : Name)
  | mx (preference : UInt16) (exchange : Name)
  | soa (primary mailbox : Name) (serial refresh retry expire minimum : UInt32)
  | srv (priority weight portNumber : UInt16) (target : Name)
  | txt (strings : List CharacterString)
  | hinfo (processor system : CharacterString)
  | opt (options : List EdnsOption)
  | naptr (order preference : UInt16) (flags : RewritingFlags)
      (services pattern : CharacterString) (replacement : Name)
  | caa (flags : UInt8) (tag : PropertyTag) (property : Octets)
  | cert (kind keyTag : UInt16) (algorithm : UInt8) (certificate : Octets)
  | sshfp (algorithm kind : UInt8) (fingerprint : Octets)
  | tlsa (usage selector matching : UInt8) (association : Octets)
  | csync (serial : UInt32) (flags : UInt16) (bitMap : TypeBitMap)
  | svcb (binding : ServiceBinding)
  | https (binding : ServiceBinding)
  | uninterpreted (type : RecordType) (octets : Octets)
deriving DecidableEq

namespace RecordData

/-- The type of a record with this data. -/
def type :
    RecordData → RecordType
  | absent type => type
  | a _ => .a
  | aaaa _ => .aaaa
  | ns _ => .ns
  | cname _ => .cname
  | ptr _ => .ptr
  | aname _ => .aname
  | mx _ _ => .mx
  | soa _ _ _ _ _ _ _ => .soa
  | srv _ _ _ _ => .srv
  | txt _ => .txt
  | hinfo _ _ => .hinfo
  | opt _ => .opt
  | naptr _ _ _ _ _ _ => .naptr
  | caa _ _ _ => .caa
  | cert _ _ _ _ => .cert
  | sshfp _ _ _ => .sshfp
  | tlsa _ _ _ _ => .tlsa
  | csync _ _ _ => .csync
  | svcb _ => .svcb
  | https _ => .https
  | uninterpreted type _ => type

end RecordData

end DnsOverQuic.Dns
