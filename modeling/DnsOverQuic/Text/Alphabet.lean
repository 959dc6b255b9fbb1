/-!
# Character classes

Blank and control characters of Unicode, and the letters that internationalised
labels may contain beside ASCII.  A capital letter is replaced by its small
letter in such labels.
-/

namespace DnsOverQuic.Text.Alphabet

/-- True if the code of the character lies in one of the ranges. -/
def inRanges
    (ranges : List (Nat × Nat))
    (symbol : Char) :
    Bool :=
  ranges.any (fun (first, last) => first ≤ symbol.toNat && symbol.toNat ≤ last)

/-- The characters of Unicode that count as white space. -/
def blankRanges : List (Nat × Nat) :=
  [(0x09, 0x0d), (0x20, 0x20), (0x85, 0x85), (0xa0, 0xa0), (0x1680, 0x1680),
    (0x2000, 0x200a), (0x2028, 0x2029), (0x202f, 0x202f), (0x205f, 0x205f),
    (0x3000, 0x3000)]

/-- True for white space. -/
def isBlank
    (symbol : Char) :
    Bool :=
  inRanges blankRanges symbol

/-- True for the control characters. -/
def isControl
    (symbol : Char) :
    Bool :=
  inRanges [(0x00, 0x1f), (0x7f, 0x9f)] symbol

/-- True for a text of white space only. -/
def isBlankText
    (text : List Char) :
    Bool :=
  text.all isBlank

/--
The letters and signs beyond ASCII that labels keep as they are, in ranges:
small letters of the Latin, Greek and Cyrillic alphabets, the letters of
scripts without capitals, and pictographs.
-/
def labelLetterRanges : List (Nat × Nat) :=
  [(0xdf, 0xf6), (0xf8, 0xff), (0x3ac, 0x3ce), (0x430, 0x45f), (0x5d0, 0x5ea),
    (0x620, 0x63f), (0x641, 0x64a), (0x904, 0x939), (0xe01, 0xe30), (0x2600, 0x26ff),
    (0x3005, 0x3007), (0x3041, 0x3096), (0x30a1, 0x30fa), (0x30fc, 0x30fe),
    (0x3400, 0x4dbf), (0x4e00, 0x9fff), (0xac00, 0xd7a3), (0x1f300, 0x1f64f)]

/--
Ranges in which every second character, from the first on, is a small letter,
and the character before it is its capital.
-/
def alternatingRanges : List (Nat × Nat) :=
  [(0x101, 0x12f), (0x135, 0x137), (0x13a, 0x13e), (0x142, 0x148), (0x14b, 0x177),
    (0x17a, 0x17e)]

/-- True for the small letters of the alternating ranges. -/
def isAlternatingSmall
    (code : Nat) :
    Bool :=
  alternatingRanges.any (fun (first, last) =>
    first ≤ code && code ≤ last && (code - first) % 2 == 0)

/-- True for a letter or sign beyond ASCII that labels keep as it is. -/
def isLabelLetter
    (symbol : Char) :
    Bool :=
  inRanges labelLetterRanges symbol || isAlternatingSmall symbol.toNat

/-- The small letter of a capital; every other character is its own. -/
def lower
    (symbol : Char) :
    Char :=
  if inRanges [(0x41, 0x5a), (0xc0, 0xd6), (0xd8, 0xde), (0x391, 0x3a1), (0x3a3, 0x3a9),
      (0x410, 0x42f)] symbol then
    Char.ofNat (symbol.toNat + 32)
  else if inRanges [(0x400, 0x40f)] symbol then
    Char.ofNat (symbol.toNat + 80)
  else if isAlternatingSmall (symbol.toNat + 1) then
    Char.ofNat (symbol.toNat + 1)
  else
    symbol

end DnsOverQuic.Text.Alphabet
