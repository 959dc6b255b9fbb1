import DnsOverQuic.Text.Hexadecimal

/-!
# Numbers in TOML

Integers are decimal with an optional sign, or hexadecimal, octal or binary
without one.  A floating-point number has a fraction, an exponent or both.
Underscores may stand between digits.
-/

namespace DnsOverQuic.Toml.Number

open Text

/-- The digits of a text in which single underscores may stand between digits. -/
def digits?
    (isDigit : Char → Bool)
    (text : List Char) :
    Option (List Char) :=
  let groups := text.splitOn '_'
  if groups.all (fun group => !group.isEmpty && group.all isDigit) then
    some groups.flatten
  else
    none

/-- The digits of a decimal number, which does not begin with a spare zero. -/
def decimalDigits?
    (text : List Char) :
    Option (List Char) :=
  (digits? Char.isDigit text).filter (fun digits => digits.length = 1 || digits.head? != some '0')

/-- The sign of a number, true for minus, and what follows it. -/
def splitSign :
    List Char → Bool × List Char
  | '-' :: rest => (true, rest)
  | '+' :: rest => (false, rest)
  | text => (false, text)

/-- The value of digits in a base. -/
def ofDigits
    (base : Nat)
    (digits : List Char) :
    Nat :=
  digits.foldl (fun value digit => base * value + (Hexadecimal.digitValue? digit).getD 0) 0

/-- True for the digits of a base up to sixteen. -/
def isDigitOf
    (base : Nat)
    (digit : Char) :
    Bool :=
  (Hexadecimal.digitValue? digit).any (· < base)

/-- Read the digits of an integer in a base up to sixteen. -/
def inBase?
    (base : Nat)
    (text : List Char) :
    Option Int :=
  (digits? (isDigitOf base) text).map (fun digits => (ofDigits base digits : Int))

/-- Read an integer. -/
def integer? :
    List Char → Option Int
  | '0' :: 'x' :: text => inBase? 16 text
  | '0' :: 'o' :: text => inBase? 8 text
  | '0' :: 'b' :: text => inBase? 2 text
  | text =>
      let (negative, magnitude) := splitSign text
      (decimalDigits? magnitude).map (fun digits =>
        if negative then - (ofDigits 10 digits : Int) else ofDigits 10 digits)

/-- A decimal number as an integer times a power of ten. -/
structure Scientific where
  mantissa : Nat
  exponent : Int
deriving DecidableEq, Inhabited

namespace Scientific

/-- The magnitudes from here on are beyond the range of 64-bit floating point. -/
def bound : Nat := Nat.pow 2 1024 - Nat.pow 2 970

/-- True for a number in the range of 64-bit floating point. -/
def inRange
    (number : Scientific) :
    Bool :=
  let places := (Nat.toDigits 10 number.mantissa).length
  if number.mantissa = 0 ∨ number.exponent + places ≤ 300 then
    true
  else if 320 ≤ number.exponent + places then
    false
  else if number.exponent < 0 then
    number.mantissa < bound * Nat.pow 10 number.exponent.natAbs
  else
    number.mantissa * Nat.pow 10 number.exponent.natAbs < bound

end Scientific

/-- Read the exponent of a floating-point number. -/
def exponent?
    (text : List Char) :
    Option Int :=
  let (negative, magnitude) := splitSign text
  (digits? Char.isDigit magnitude).map (fun digits =>
    if negative then - (ofDigits 10 digits : Int) else ofDigits 10 digits)

/-- Read an integer and a fraction behind a point. -/
def fixed?
    (text : List Char) :
    Option Scientific :=
  match text.span (· != '.') with
  | (whole, _ :: fraction) => do
      let whole ← decimalDigits? whole
      let fraction ← digits? Char.isDigit fraction
      return ⟨ofDigits 10 (whole ++ fraction), - (fraction.length : Int)⟩
  | _ => none

/-- Read a floating-point number without its sign. -/
def scientific?
    (text : List Char) :
    Option Scientific :=
  match text.span (fun symbol => symbol != 'e' && symbol != 'E') with
  | (front, _ :: exponent) => do
      let whole := (decimalDigits? front).map (fun digits => Scientific.mk (ofDigits 10 digits) 0)
      let number ← whole.or (fixed? front)
      return ⟨number.mantissa, number.exponent + (← exponent? exponent)⟩
  | (front, []) => fixed? front

/-- Read a floating-point number: whether it is in range, as the special ones are. -/
def float?
    (text : List Char) :
    Option Bool :=
  let magnitude := (splitSign text).2
  if magnitude = "inf".toList ∨ magnitude = "nan".toList then
    some true
  else
    (scientific? magnitude).map Scientific.inRange

end DnsOverQuic.Toml.Number
