import DnsOverQuic.Identity.Der
import DnsOverQuic.Identity.Pem

/-!
# Certificates and keys

A certificate names the public key that it is for.  A private key is usable if
it is of a supported kind and its parts agree; most keys state their public
key too, so that a key that does not belong to a certificate is noticed.
-/

namespace DnsOverQuic.Identity

open Der

/-- The identifier of keys of the RSA cryptosystem. -/
def rsaIdentifier : Element :=
  ⟨identifierTag, [0x2a, 0x86, 0x48, 0x86, 0xf7, 0x0d, 0x01, 0x01, 0x01]⟩

/-- The identifier of keys on elliptic curves. -/
def curveKeyIdentifier : Element :=
  ⟨identifierTag, [0x2a, 0x86, 0x48, 0xce, 0x3d, 0x02, 0x01]⟩

/-- The identifier of Edwards curve keys. -/
def edwardsIdentifier : Element :=
  ⟨identifierTag, [0x2b, 0x65, 0x70]⟩

/-- The supported curves, with the octets of a scalar. -/
def curves : List (Element × Nat) :=
  [(⟨identifierTag, [0x2a, 0x86, 0x48, 0xce, 0x3d, 0x03, 0x01, 0x07]⟩, 32),
    (⟨identifierTag, [0x2b, 0x81, 0x04, 0x00, 0x22]⟩, 48),
    (⟨identifierTag, [0x2b, 0x81, 0x04, 0x00, 0x23]⟩, 66)]

/-- The public key that belongs to a usable private key, if the key states it. -/
inductive PublicKey where
  | stated (octets : Octets)
  | unstated
deriving DecidableEq, Inhabited

namespace PublicKey

/-- A public key of the RSA cryptosystem. -/
def ofRsa
    (modulus exponent : Element) :
    PublicKey :=
  .stated (write (sequence [sequence [rsaIdentifier, ⟨0x05, []⟩],
    bitString (write (sequence [modulus, exponent]))]))

/-- A public key that is a point on a curve. -/
def ofPoint
    (curve : Element)
    (point : Octets) :
    PublicKey :=
  .stated (write (sequence [sequence [curveKeyIdentifier, curve], bitString point]))

end PublicKey

/-- The public key of a private key of the RSA cryptosystem, if it is usable. -/
def rsaKey?
    (octets : Octets) :
    Option PublicKey := do
  let parts ← sequence? octets
  let values ← parts.mapM integer?
  match parts, values with
  | _ :: modulusPart :: exponentPart :: _, version :: modulus :: exponent :: _ :: p :: q :: _ =>
      if version = 0 ∧ values.length = 9 ∧ Nat.pow 2 2047 ≤ modulus ∧ modulus < Nat.pow 2 8192 ∧
          modulus = p * q ∧ exponent % 2 = 1 ∧ 3 ≤ exponent then
        return .ofRsa modulusPart exponentPart
      else
        none
  | _, _ => none

/-- The point that the parts of a key on a curve state, if they do. -/
def statedPoint?
    (parts : List Element) :
    Option Octets := do
  let wrapped ← parts.find? (fun part => part.tag == explicitTag 1)
  match ← readAll? wrapped.content with
  | [⟨tag, 0 :: point⟩] => if tag = bitStringTag then some point else none
  | _ => none

/-- The curve that the parts of a key on a curve state, if they do. -/
def statedCurve?
    (parts : List Element) :
    Option Element := do
  let wrapped ← parts.find? (fun part => part.tag == explicitTag 0)
  let [curve] ← readAll? wrapped.content | none
  return curve

/-- The public key of a private key on a curve, if it is usable. -/
def curveKey?
    (outerCurve : Option Element)
    (octets : Octets) :
    Option PublicKey := do
  match ← sequence? octets with
  | version :: scalar :: others =>
      let curve ← (statedCurve? others).or outerCurve
      let size ← curves.lookup curve
      if integer? version = some 1 ∧ scalar.tag = octetStringTag ∧ scalar.content.length = size ∧
          natural scalar.content ≠ 0 ∧ outerCurve.all (· == curve) then
        match statedPoint? others with
        | some point => return .ofPoint curve point
        | none => return .unstated
      else
        none
  | _ => none

/-- The public key of a private key that names its kind, if it is usable. -/
def namedKey?
    (octets : Octets) :
    Option PublicKey := do
  match ← sequence? octets with
  | _ :: algorithm :: key :: _ =>
      if key.tag ≠ octetStringTag then
        none
      else
        match ← parts? sequenceTag algorithm with
        | identifier :: parameters =>
            if identifier = rsaIdentifier then rsaKey? key.content
            else if identifier = curveKeyIdentifier then curveKey? parameters.head? key.content
            else if identifier = edwardsIdentifier ∧ key.content.length = 34 then
              return .unstated
            else none
        | [] => none
  | _ => none

/-- The public key of a private key of the given form, if it is usable. -/
def publicKey?
    (form : KeyForm)
    (octets : Octets) :
    Option PublicKey :=
  match form with
  | .pkcs1 => rsaKey? octets
  | .pkcs8 => namedKey? octets
  | .sec1 => curveKey? none octets

/-- The public key that a certificate is for, if the octets are a certificate. -/
def certifiedKey?
    (certificate : Octets) :
    Option Octets := do
  match ← sequence? certificate with
  | [body, algorithm, signature] =>
      let parts ← parts? sequenceTag body
      let parts := parts.dropWhile (fun part => part.tag == explicitTag 0)
      match parts with
      | _serial :: _algorithm :: _issuer :: _validity :: _subject :: key :: _ =>
          if algorithm.tag = sequenceTag ∧ signature.tag = bitStringTag ∧
              key.tag = sequenceTag then
            return write key
          else
            none
      | _ => none
  | _ => none

/-- True if a private key can be presented with a certificate. -/
def belongs
    (form : KeyForm)
    (key certificate : Octets) :
    Bool :=
  match publicKey? form key, certifiedKey? certificate with
  | some (.stated octets), some certified => octets == certified
  | some .unstated, some _ => true
  | _, _ => false

end DnsOverQuic.Identity
