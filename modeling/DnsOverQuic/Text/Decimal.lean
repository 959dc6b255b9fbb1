/-!
# Decimal numerals

The decimal numeral of a number has no leading zero, except that zero itself
is written `0`.  Reading accepts any non-empty string of ASCII digits, leading
zeros included; the canonical reader accepts numerals only, so reading and
writing are inverse to each other there.
-/

namespace DnsOverQuic.Text.Decimal

/-- The decimal numeral of a number. -/
def numeral
    (value : Nat) :
    List Char :=
  Nat.toDigits 10 value

/-- The number that a non-empty string of ASCII digits denotes. -/
def read?
    (text : List Char) :
    Option Nat :=
  if text ≠ [] ∧ text.all Char.isDigit then
    some (Nat.ofDigitChars 10 text 0)
  else
    none

/-- Read a digit string whose value does not exceed the limit. -/
def readUpTo?
    (limit : Nat)
    (text : List Char) :
    Option Nat :=
  (read? text).filter (· ≤ limit)

/-- Read a numeral without leading zeros whose value does not exceed the limit. -/
def readNumeralUpTo?
    (limit : Nat)
    (text : List Char) :
    Option Nat :=
  (readUpTo? limit text).filter (fun value => numeral value = text)

/--
Read a digit string that one plus sign may introduce, with a value that does
not exceed the limit.
-/
def readSignedUpTo?
    (limit : Nat) :
    List Char → Option Nat
  | '+' :: digits => readUpTo? limit digits
  | digits => readUpTo? limit digits

theorem numeral_ne_nil
    (value : Nat) :
    numeral value ≠ [] :=
  Nat.toDigits_ne_nil

theorem isDigit_of_mem_numeral
    {value : Nat}
    {digit : Char}
    (member : digit ∈ numeral value) :
    digit.isDigit :=
  Nat.isDigit_of_mem_toDigits (by decide) (by decide) member

theorem not_mem_numeral
    {symbol : Char}
    (other : symbol.isDigit = false)
    (value : Nat) :
    symbol ∉ numeral value := by
  intro member
  rw [isDigit_of_mem_numeral member] at other
  cases other

/-- Every numeral is read as its number. -/
@[simp]
theorem read?_numeral
    (value : Nat) :
    read? (numeral value) = some value := by
  have digits : (numeral value).all Char.isDigit := by
    simp only [List.all_eq_true]
    intro digit member
    exact isDigit_of_mem_numeral member
  simp only [read?, digits, numeral_ne_nil, ne_eq, not_false_eq_true, and_self, if_true]
  simp [numeral, Nat.ofDigitChars_toDigits]

/-- A numeral within the limit is read as its number. -/
theorem readUpTo?_numeral
    {limit value : Nat}
    (bound : value ≤ limit) :
    readUpTo? limit (numeral value) = some value := by
  simp [readUpTo?, Option.filter, bound]

/-- No sign stands in front of a numeral. -/
theorem readSignedUpTo?_numeral
    {limit value : Nat}
    (bound : value ≤ limit) :
    readSignedUpTo? limit (numeral value) = some value := by
  unfold readSignedUpTo?
  split
  next digits signed =>
    have sign : '+' ∈ numeral value := signed ▸ List.mem_cons_self
    exact absurd sign (not_mem_numeral (by decide) value)
  next => exact readUpTo?_numeral bound

/-- A numeral within the limit is also read canonically. -/
theorem readNumeralUpTo?_numeral
    {limit value : Nat}
    (bound : value ≤ limit) :
    readNumeralUpTo? limit (numeral value) = some value := by
  simp [readNumeralUpTo?, readUpTo?_numeral bound, Option.filter]

/-- What is read canonically is the numeral of its value. -/
theorem numeral_of_readNumeralUpTo?
    {limit value : Nat}
    {text : List Char}
    (read : readNumeralUpTo? limit text = some value) :
    numeral value = text := by
  simp only [readNumeralUpTo?, Option.filter_eq_some_iff, decide_eq_true_eq] at read
  exact read.2

/-- What is read within a limit does not exceed it. -/
theorem le_of_readUpTo?
    {limit value : Nat}
    {text : List Char}
    (read : readUpTo? limit text = some value) :
    value ≤ limit := by
  simp only [readUpTo?, Option.filter_eq_some_iff, decide_eq_true_eq] at read
  exact read.2

theorem readUpTo?_of_readNumeralUpTo?
    {limit value : Nat}
    {text : List Char}
    (read : readNumeralUpTo? limit text = some value) :
    readUpTo? limit text = some value := by
  simp only [readNumeralUpTo?, Option.filter_eq_some_iff] at read
  exact read.1

end DnsOverQuic.Text.Decimal
