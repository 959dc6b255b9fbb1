import DnsOverQuic.Dns.RecordData
import DnsOverQuic.Text.Utf8

/-!
# Fields of data

Reading data whose octets are known to their end: items until no octets are
left, the parameters of a service binding, and data in which no name occurs.
There is no result if the octets end within an item or an item is not
admissible.
-/

namespace DnsOverQuic.Dns.Wire

open Text

/-! ## Items -/

/-- Read 16-bit words. -/
def words? :
    Octets → Option (List UInt16)
  | [] => some []
  | high :: low :: rest => (words? rest).map (Octets.toUInt16 high low :: ·)
  | [_] => none

/-- Read IPv4 addresses. -/
def ipv4Addresses? :
    Octets → Option (List IPv4)
  | [] => some []
  | first :: second :: third :: fourth :: rest =>
      (ipv4Addresses? rest).map (⟨first, second, third, fourth⟩ :: ·)
  | _ => none

/-- Take groups as IPv6 addresses. -/
def ipv6Addresses? :
    List UInt16 → Option (List IPv6)
  | [] => some []
  | first :: second :: third :: fourth :: fifth :: sixth :: seventh :: eighth :: rest =>
      (ipv6Addresses? rest).map
        (⟨[first, second, third, fourth, fifth, sixth, seventh, eighth], rfl⟩ :: ·)
  | _ => none

/-- Read counted octet strings. -/
def countedStrings? :
    Octets → Option (List CharacterString)
  | [] => some []
  | count :: rest =>
      if count.toNat ≤ rest.length then do
        let counted ← CharacterString.ofOctets? (rest.take count.toNat)
        let others ← countedStrings? (rest.drop count.toNat)
        return counted :: others
      else
        none
  termination_by octets => octets.length
  decreasing_by
    simp only [List.length_drop, List.length_cons]
    omega

/-! ## Service bindings -/

/-- True if a counted string is UTF-8. -/
def isText
    (counted : CharacterString) :
    Bool :=
  (Utf8.read? counted.octets).isSome

/--
Read the value of a parameter by its key.  Octets behind the number of a socket
are dropped.
-/
def parameter?
    (key : UInt16)
    (value : Octets) :
    Option ServiceParameter :=
  if key = 0 then
    ((words? value).filter (· ≠ [])).map .mandatory
  else if key = 1 then
    ((countedStrings? value).filter (fun identifiers =>
      identifiers ≠ [] ∧ identifiers.all isText)).map .protocols
  else if key = 2 then
    if value = [] then some .noDefaultProtocol else none
  else if key = 3 then
    match value with
    | high :: low :: _ => some (.portNumber (Octets.toUInt16 high low))
    | _ => none
  else if key = 4 then
    (ipv4Addresses? value).map .ipv4Hints
  else if key = 5 then
    some (.encryptedHello value)
  else if key = 6 then
    ((words? value).bind ipv6Addresses?).map .ipv6Hints
  else
    some (.uninterpreted key value)

/-- Read parameters, each with its key and the length of its value in front. -/
def parameters? :
    Octets → Option (List ServiceParameter)
  | [] => some []
  | keyHigh :: keyLow :: high :: low :: rest =>
      let length := (Octets.toUInt16 high low).toNat
      if length ≤ rest.length then do
        let parameter ← parameter? (Octets.toUInt16 keyHigh keyLow) (rest.take length)
        let others ← parameters? (rest.drop length)
        return parameter :: others
      else
        none
  | _ => none
  termination_by octets => octets.length
  decreasing_by
    simp only [List.length_drop, List.length_cons]
    omega

/-! ## Data without names -/

/-- Read a property of certification authorities: flags, a counted tag and the property. -/
def authorization? :
    Octets → Option RecordData
  | flags :: count :: rest => do
      let (tag, property) ← Octets.splitExact? count.toNat rest
      return .caa flags (← PropertyTag.ofOctets? tag) property
  | _ => none

/-- Read a certificate with its kind, the tag of its key and its algorithm.  It is not empty. -/
def certificate? :
    Octets → Option RecordData
  | kindHigh :: kindLow :: tagHigh :: tagLow :: algorithm :: first :: rest =>
      some (.cert (Octets.toUInt16 kindHigh kindLow) (Octets.toUInt16 tagHigh tagLow) algorithm
        (first :: rest))
  | _ => none

/-- Read the fingerprint of a host key. -/
def fingerprint? :
    Octets → Option RecordData
  | algorithm :: kind :: fingerprint => some (.sshfp algorithm kind fingerprint)
  | _ => none

/-- Read the association of a certificate with a service. -/
def association? :
    Octets → Option RecordData
  | usage :: selector :: matching :: association =>
      some (.tlsa usage selector matching association)
  | _ => none

/-- The flags of a synchronization among which there must be no others. -/
def unknownSynchronizationFlags : UInt16 := 0x00fc

/-- Read what is to be synchronized: the serial of the zone, flags and a type bit map. -/
def synchronization? :
    Octets → Option RecordData
  | first :: second :: third :: fourth :: high :: low :: rest => do
      let flags := Octets.toUInt16 high low
      let bitMap ← TypeBitMap.ofOctets? rest
      guard (flags &&& unknownSynchronizationFlags = 0)
      return .csync
        (Octets.toUInt32 (Octets.toUInt16 first second) (Octets.toUInt16 third fourth)) flags bitMap
  | _ => none

/-- Read data in which no name occurs. -/
def dataOfOctets?
    (type : RecordType)
    (octets : Octets) :
    Option RecordData :=
  if type = .caa then authorization? octets
  else if type = .cert then certificate? octets
  else if type = .sshfp then fingerprint? octets
  else if type = .tlsa then association? octets
  else if type = .csync then synchronization? octets
  else some (.uninterpreted type octets)

end DnsOverQuic.Dns.Wire
