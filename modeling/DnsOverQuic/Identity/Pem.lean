import DnsOverQuic.Text.Base64

/-!
# Sections of text files with certificates and keys

A file holds sections between a line that begins one and a line that ends it,
with Base64 in between.  Lines outside of sections mean nothing.  Reading stops
at the first fault.
-/

namespace DnsOverQuic.Identity

open Text

/-- The form of a private key. -/
inductive KeyForm where
  | pkcs1
  | pkcs8
  | sec1
deriving DecidableEq, Inhabited

/-- What a section holds; a malformed section ends the items of a file. -/
inductive Item where
  | certificate (octets : List UInt8)
  | key (form : KeyForm) (octets : List UInt8)
  | other
  | malformed
deriving DecidableEq, Inhabited

namespace Pem

/-- The octets of an ASCII text. -/
def ascii
    (text : String) :
    List UInt8 :=
  text.toList.map (fun symbol => UInt8.ofNat symbol.toNat)

/-- The lines of a file, each ended by a line feed or a carriage return. -/
def lines
    (octets : List UInt8) :
    List (List UInt8) :=
  octets.splitOnP (fun octet => octet == 10 || octet == 13)

/-- What a line that begins a section starts with. -/
def beginMark : List UInt8 := ascii "-----BEGIN "

/-- What a line that ends a section starts with. -/
def endMark : List UInt8 := ascii "-----END "

/-- The dashes behind a label. -/
def dashes : List UInt8 := ascii "-----"

/-- The label of a line that begins a section, if exactly five dashes end it. -/
def label?
    (line : List UInt8) :
    Option (List UInt8) :=
  let trailer := line.reverse.takeWhile (fun octet => octet == 45 || octet == 32)
  let trailer := (trailer.reverse.dropWhile (· == 32))
  if trailer.count 45 = 5 then
    some ((line.take (line.length - trailer.length)).drop beginMark.length)
  else
    none

/-- True for a line that ends the section with the label. -/
def ends
    (label line : List UInt8) :
    Bool :=
  (endMark ++ label ++ dashes).isPrefixOf line

/-- What the content of a section with a known label means. -/
def interpretations : List (String × (List UInt8 → Item)) :=
  [("CERTIFICATE", .certificate), ("PRIVATE KEY", .key .pkcs8),
    ("RSA PRIVATE KEY", .key .pkcs1), ("EC PRIVATE KEY", .key .sec1),
    ("PUBLIC KEY", fun _ => .other), ("X509 CRL", fun _ => .other),
    ("CERTIFICATE REQUEST", fun _ => .other), ("ECHCONFIG", fun _ => .other)]

/-- What a section with a label is; content under an unknown label is not read. -/
def itemOf
    (label content : List UInt8) :
    Item :=
  match interpretations.find? (fun entry => ascii entry.1 == label) with
  | none => .other
  | some (_, interpret) =>
      match Base64.read? content with
      | some octets => interpret octets
      | none => .malformed

/--
Read sections.  Within a section its label and the lines so far, last first,
are known; another beginning line changes the label and keeps the lines.
-/
def readItems :
    Option (List UInt8) → List (List UInt8) → List (List UInt8) → List Item
  | none, _, [] => []
  | some _, _, [] => [.malformed]
  | within, content, line :: rest =>
      if beginMark.isPrefixOf line then
        match label? line with
        | some label => readItems (some label) content rest
        | none => [.malformed]
      else
        match within with
        | none => readItems none content rest
        | some label =>
            if ends label line then
              match itemOf label content.reverse.flatten with
              | .malformed => [.malformed]
              | item => item :: readItems none [] rest
            else
              readItems (some label) (line :: content) rest

/-- The items of a file. -/
def items
    (octets : List UInt8) :
    List Item :=
  readItems none [] (lines octets)

end Pem

end DnsOverQuic.Identity
