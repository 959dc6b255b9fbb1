/-!
# Hexadecimal digits

The digit values of both letter cases, the lower-case numerals that IPv6
groups are written with, and octets in pairs of lower-case digits.
-/

namespace DnsOverQuic.Text.Hexadecimal

/-- The value of a hexadecimal digit of either letter case. -/
def digitValue?
    (digit : Char) :
    Option Nat :=
  if digit.isDigit then
    some (digit.toNat - '0'.toNat)
  else if 'a' ≤ digit ∧ digit ≤ 'f' then
    some (digit.toNat - 'a'.toNat + 10)
  else if 'A' ≤ digit ∧ digit ≤ 'F' then
    some (digit.toNat - 'A'.toNat + 10)
  else
    none

/-- The lower-case numeral of a number, without leading zeros. -/
def numeral
    (value : Nat) :
    List Char :=
  Nat.toDigits 16 value

/-- The value of digits read from the left, after `value` has been read. -/
def readFrom?
    (value : Nat) :
    List Char → Option Nat
  | [] => some value
  | digit :: rest => do
      let next ← digitValue? digit
      readFrom? (16 * value + next) rest

/-- The number that a non-empty string of hexadecimal digits denotes. -/
def read? :
    List Char → Option Nat
  | [] => none
  | text => readFrom? 0 text

/-- Octets with two lower-case digits for each. -/
def write
    (octets : List UInt8) :
    List Char :=
  octets.flatMap (fun octet =>
    [Nat.digitChar (octet.toNat / 16), Nat.digitChar (octet.toNat % 16)])

/-- The digits that numerals are written with. -/
def lowerDigits : List Char := "0123456789abcdef".toList

theorem lowerDigits_eq :
    lowerDigits = (List.range 16).map Nat.digitChar := by
  decide

theorem digitChar_mem_lowerDigits
    {value : Nat}
    (small : value < 16) :
    Nat.digitChar value ∈ lowerDigits := by
  rw [lowerDigits_eq]
  exact List.mem_map.mpr ⟨value, List.mem_range.mpr small, rfl⟩

theorem digitValue?_digitChar
    {value : Nat}
    (small : value < 16) :
    digitValue? (Nat.digitChar value) = some value := by
  have all : ∀ value ∈ List.range 16, digitValue? (Nat.digitChar value) = some value := by
    decide
  exact all value (List.mem_range.mpr small)

/-- Each digit of numerals is the digit of its value. -/
theorem digitChar_of_digitValue?
    {digit : Char}
    {value : Nat}
    (lower : digit ∈ lowerDigits)
    (read : digitValue? digit = some value) :
    Nat.digitChar value = digit ∧ value < 16 := by
  rw [lowerDigits_eq] at lower
  rcases List.mem_map.mp lower with ⟨value', inside, rfl⟩
  have small := List.mem_range.mp inside
  cases read.symm.trans (digitValue?_digitChar small)
  exact ⟨rfl, small⟩

theorem numeral_ne_nil
    (value : Nat) :
    numeral value ≠ [] :=
  Nat.toDigits_ne_nil

/-- A numeral of several digits is that of the sixteenth part and one more digit. -/
theorem numeral_of_le
    {value : Nat}
    (large : 16 ≤ value) :
    numeral value = numeral (value / 16) ++ [Nat.digitChar (value % 16)] :=
  Nat.toDigits_of_base_le (by decide) large

theorem numeral_of_lt
    {value : Nat}
    (small : value < 16) :
    numeral value = [Nat.digitChar value] :=
  Nat.toDigits_of_lt_base small

theorem mem_lowerDigits_of_mem_numeral
    {value : Nat}
    {digit : Char}
    (member : digit ∈ numeral value) :
    digit ∈ lowerDigits := by
  induction value using Nat.strongRecOn with
  | ind value ih =>
      by_cases small : value < 16
      · rw [numeral_of_lt small, List.mem_singleton] at member
        exact member ▸ digitChar_mem_lowerDigits small
      · rw [numeral_of_le (Nat.le_of_not_lt small), List.mem_append, List.mem_singleton] at member
        cases member with
        | inl front => exact ih (value / 16) (by omega) front
        | inr last => exact last ▸ digitChar_mem_lowerDigits (Nat.mod_lt value (by decide))

theorem readFrom?_append
    (value : Nat)
    (front back : List Char) :
    readFrom? value (front ++ back) = (readFrom? value front).bind (readFrom? · back) := by
  induction front generalizing value with
  | nil => rfl
  | cons digit rest ih =>
      cases next : digitValue? digit with
      | none => simp [readFrom?, next]
      | some read => simp [readFrom?, next, ih]

theorem readFrom?_numeral
    (value : Nat) :
    readFrom? 0 (numeral value) = some value := by
  induction value using Nat.strongRecOn with
  | ind value ih =>
      by_cases small : value < 16
      · rw [numeral_of_lt small]
        simp [readFrom?, digitValue?_digitChar small]
      · have last : value % 16 < 16 := Nat.mod_lt value (by decide)
        rw [numeral_of_le (Nat.le_of_not_lt small), readFrom?_append, ih (value / 16) (by omega)]
        simp only [Option.bind_some, readFrom?, digitValue?_digitChar last]
        exact congrArg some (Nat.div_add_mod value 16)

/-- Every numeral is read as its number. -/
@[simp]
theorem read?_numeral
    (value : Nat) :
    read? (numeral value) = some value := by
  rw [← readFrom?_numeral value]
  cases digits : numeral value with
  | nil => exact absurd digits (numeral_ne_nil value)
  | cons digit rest => rfl

/-- The numeral of a 16-bit word has at most four digits. -/
theorem length_numeral_le
    (word : UInt16) :
    (numeral word.toNat).length ≤ 4 :=
  (Nat.length_toDigits_le_iff (by decide) (by decide)).mpr word.toNat_lt

end DnsOverQuic.Text.Hexadecimal
