import DnsOverQuic.Dns.Internationalised
import DnsOverQuic.Dns.Name

/-!
# Names in text

A name is written as labels separated by dots, and a dot at the end makes it
absolute.  A backslash takes the next character literally, or three octal
digits as the code of a character.

The labels are first taken as parts of an internationalised host name, which
is in small letters.  If any of them is not, all labels are taken as ASCII
labels, which keep the case of their letters.
-/

namespace DnsOverQuic.Dns.NameText

open Text

/-- The value of an octal digit. -/
def octalValue?
    (digit : Char) :
    Option Nat :=
  if '0' ≤ digit ∧ digit ≤ '7' then some (digit.toNat - '0'.toNat) else none

/--
Separate the labels of a name and resolve escapes; `label` holds the symbols
of the current label, last first.  An escape that the end of the text cuts off
is dropped.
-/
def separate? :
    List Char → List Char → Option (List (List Char))
  | label, [] => some [label.reverse]
  | label, '.' :: rest => (separate? [] rest).map (label.reverse :: ·)
  | label, ['\\'] => some [label.reverse]
  | label, '\\' :: escaped :: rest =>
      if escaped.isDigit then
        match rest with
        | [] => (octalValue? escaped).map (fun _ => [label.reverse])
        | [second] => do
            let _ ← octalValue? escaped
            let _ ← octalValue? second
            return [label.reverse]
        | second :: third :: rest => do
            let code := (← octalValue? escaped) * 64 + (← octalValue? second) * 8 +
              (← octalValue? third)
            separate? (Char.ofNat code :: label) rest
      else
        separate? (escaped :: label) rest
  | label, symbol :: rest =>
      if Alphabet.isControl symbol || Alphabet.isBlank symbol then
        none
      else
        separate? (symbol :: label) rest

/-- True if a symbol may stand in a label, at its front or further on. -/
def isLabelSymbol
    (front : Bool)
    (symbol : Char) :
    Bool :=
  symbol.isAlphanum || symbol == '_' || symbol == '.' || symbol == (if front then '*' else '-')

/-- Take a text of ASCII label symbols as a label. -/
def labelOfAscii? :
    List Char → Option Label
  | [] => none
  | first :: rest =>
      if isLabelSymbol true first && rest.all (isLabelSymbol false) then
        some ((first :: rest).map (fun symbol => UInt8.ofNat symbol.toNat))
      else
        none

/--
The ASCII form of a host name with dots in it, as an escaped dot gives one
within a label.  A last part without symbols stands for the root.
-/
def asciiForms?
    (text : List Char) :
    Option (List Char) := do
  let parts := text.splitOn '.'
  let parts := if 1 < parts.length ∧ parts.getLast? = some [] then parts.dropLast else parts
  let forms ← parts.mapM Internationalised.asciiForm?
  if forms.all (fun form => form.length ≠ 0 && form.length ≤ 63) then
    return ['.'].intercalate forms ++ (if text.getLast? = some '.' then ['.'] else [])
  else
    none

/-- Take a text as a label of an internationalised name. -/
def labelOfHost?
    (text : List Char) :
    Option Label :=
  if text = ['*'] ∨ text.head? = some '_' then
    labelOfAscii? text
  else
    (asciiForms? text).bind labelOfAscii?

end DnsOverQuic.Dns.NameText

namespace DnsOverQuic.Dns.Name

open NameText

/-- Read a name.  The text of the root is a dot, the empty text is no label. -/
def read?
    (text : List Char) :
    Option Name :=
  if text = ['.'] then
    some root
  else do
    let texts ← separate? [] text
    let complete := texts.getLast? = some []
    let texts := if complete then texts.dropLast else texts
    let labels ← (texts.mapM labelOfHost?).or (texts.mapM labelOfAscii?)
    ofLabels? labels (complete && text ≠ [])

end DnsOverQuic.Dns.Name
