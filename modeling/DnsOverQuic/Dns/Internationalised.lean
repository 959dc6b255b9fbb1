import DnsOverQuic.Text.Alphabet
import DnsOverQuic.Text.Punycode

/-!
# Internationalised labels

A label with letters beyond ASCII travels as Punycode behind the marker
`xn--`.  This module turns such labels into their ASCII form and back.  Only
small letters occur in either form, so a label has at most one ASCII form.
-/

namespace DnsOverQuic.Dns.Internationalised

open Text

/-- What marks the ASCII form of a label. -/
def marker : List Char := "xn--".toList

/-- The Punycode behind the marker, if the text begins with the marker. -/
def unmarked? :
    List Char → Option (List Char)
  | 'x' :: 'n' :: '-' :: '-' :: rest => some rest
  | _ => none

/-- True for a character of ASCII. -/
def isAscii
    (symbol : Char) :
    Bool :=
  symbol.toNat < 128

/-- True for the ASCII characters of host names: letters, digits and hyphens. -/
def isHostSymbol
    (symbol : Char) :
    Bool :=
  symbol.isAlphanum || symbol == '-'

/--
The label that Punycode stands for.  It has a letter beyond ASCII, or it would
not have been coded, and it is one label.
-/
def ofPunycode?
    (code : List Char) :
    Option (List Char) :=
  (Punycode.read? (code.map Alphabet.lower)).filter (fun label =>
    label.any (fun symbol => !isAscii symbol) &&
      label.all (fun symbol => if isAscii symbol then symbol != '.' else
        Alphabet.isLabelLetter symbol))

/-- The label that a marked ASCII form stands for. -/
def ofMarked?
    (text : List Char) :
    Option (List Char) :=
  (unmarked? text).bind ofPunycode?

/-- True if host symbols and letters beyond ASCII make up the text. -/
def isHostText
    (text : List Char) :
    Bool :=
  text.all (fun symbol => isHostSymbol symbol || Alphabet.isLabelLetter symbol)

/--
The ASCII form, in small letters, of a label of a host name.  A label that is
in ASCII form already must stand for a label.
-/
def asciiForm?
    (label : List Char) :
    Option (List Char) :=
  let small := label.map Alphabet.lower
  match unmarked? small with
  | some code =>
      match ofPunycode? code with
      | some decoded => if isHostText decoded then some small else none
      | none => none
  | none =>
      if isHostText small then
        some (if small.all isAscii then small else marker ++ Punycode.write small)
      else
        none

end DnsOverQuic.Dns.Internationalised
