import DnsOverQuic.Text.Decimal
import DnsOverQuic.Text.Hexadecimal
import Mathlib.Algebra.Ring.Nat
import Mathlib.Data.List.Induction

/-!
# Numerals

A numeral is read digit by digit, the most significant first.  The readers of decimal and
of hexadecimal numerals accept exactly these, leading zeros included.  Without leading
zeros there is one numeral for each number, the one that the number is written with.
-/

namespace DnsOverQuic.Text

/-- A numeral: digits that have a value, at least one, the most significant first. -/
inductive IsNumeral
    (base : Nat)
    (digitValue? : Char → Option Nat) :
    Nat → List Char → Prop where
  | single
      {digit : Char}
      {value : Nat}
      (read : digitValue? digit = some value) :
      IsNumeral base digitValue? value [digit]
  | longer
      {front : List Char}
      {digit : Char}
      {before value : Nat}
      (numeral : IsNumeral base digitValue? before front)
      (read : digitValue? digit = some value) :
      IsNumeral base digitValue? (base * before + value) (front ++ [digit])

namespace IsNumeral

variable
    {base value : Nat}
    {digitValue? : Char → Option Nat}
    {text : List Char}

theorem ne_nil
    (numeral : IsNumeral base digitValue? value text) :
    text ≠ [] := by
  cases numeral <;> simp

/-- All symbols of a numeral are digits. -/
theorem exists_of_mem
    (numeral : IsNumeral base digitValue? value text)
    {symbol : Char}
    (member : symbol ∈ text) :
    ∃ digit, digitValue? symbol = some digit := by
  induction numeral with
  | single read => exact ⟨_, List.mem_singleton.mp member ▸ read⟩
  | longer numeral read ih =>
      rcases List.mem_append.mp member with front | last
      · exact ih front
      · exact ⟨_, List.mem_singleton.mp last ▸ read⟩

theorem not_mem
    (numeral : IsNumeral base digitValue? value text)
    {symbol : Char}
    (other : digitValue? symbol = none) :
    symbol ∉ text := by
  intro member
  rcases numeral.exists_of_mem member with ⟨digit, read⟩
  cases other.symm.trans read

/-- The value of a numeral is bounded by the number of its digits. -/
theorem lt_pow
    (numeral : IsNumeral base digitValue? value text)
    (small : ∀ {symbol digit}, digitValue? symbol = some digit → digit < base) :
    value < base ^ text.length := by
  induction numeral with
  | single read => simpa using small read
  | @longer front digit before value numeral read ih =>
      calc
        base * before + value < base * before + base :=
          Nat.add_lt_add_left (small read) _
        _ = base * (before + 1) :=
          (Nat.mul_succ base before).symm
        _ ≤ base * base ^ front.length :=
          Nat.mul_le_mul_left base ih
        _ = base ^ (front ++ [digit]).length := by
          rw [List.length_append, List.length_singleton, Nat.pow_succ']

/-- A numeral without leading zeros is the one that numbers are written with. -/
theorem eq_toDigits
    (several : 1 < base)
    (digits : ∀ {symbol digit}, symbol ∈ text → digitValue? symbol = some digit →
      digit < base ∧ Nat.digitChar digit = symbol)
    (numeral : IsNumeral base digitValue? value text)
    (plain : text.head? = some '0' → text = ['0']) :
    text = Nat.toDigits base value := by
  induction numeral with
  | single read =>
      rcases digits List.mem_cons_self read with ⟨small, same⟩
      rw [Nat.toDigits_of_lt_base small, same]
  | @longer front digit before value numeral read ih =>
      have inside {symbol : Char} (member : symbol ∈ front) : symbol ∈ front ++ [digit] :=
        List.mem_append_left _ member
      rcases digits (List.mem_append_right _ List.mem_cons_self) read with ⟨small, same⟩
      have noZero : front.head? ≠ some '0' := by
        intro zero
        have whole := plain (by rw [List.head?_append, zero]; rfl)
        have length := congrArg List.length whole
        have written := List.length_pos_iff.mpr numeral.ne_nil
        simp only [List.length_append, List.length_singleton] at length
        omega
      have written := ih (fun member => digits (inside member)) (fun zero => absurd zero noZero)
      have positive : before ≠ 0 := by
        rintro rfl
        rw [Nat.toDigits_of_lt_base (by omega)] at written
        exact noZero (written ▸ rfl)
      have large : base ≤ base * before + value :=
        Nat.le_add_right_of_le (Nat.le_mul_of_pos_right base (Nat.pos_of_ne_zero positive))
      rw [Nat.toDigits_of_base_le several large, Nat.mul_add_div (by omega),
        Nat.div_eq_of_lt small, Nat.add_zero, Nat.mul_add_mod, Nat.mod_eq_of_lt small, same,
        ← written]

end IsNumeral

/-- Only zero is written with a zero in front. -/
theorem eq_zero_of_head?_toDigits
    {base value : Nat}
    (several : 1 < base)
    (zero : (Nat.toDigits base value).head? = some '0') :
    value = 0 := by
  induction value using Nat.strongRecOn with
  | ind value ih =>
      by_cases small : value < base
      · rw [Nat.toDigits_of_lt_base small] at zero
        exact Nat.digitChar_eq_zero.mp (Option.some.inj zero)
      · have large : base ≤ value := Nat.le_of_not_lt small
        have quotient : 0 < value / base := Nat.div_pos large (by omega)
        rw [Nat.toDigits_of_base_le several large, List.head?_append,
          List.head?_eq_some_head Nat.toDigits_ne_nil] at zero
        have front := ih (value / base) (Nat.div_lt_self (by omega) several)
          ((List.head?_eq_some_head Nat.toDigits_ne_nil).trans zero)
        omega

namespace Decimal

/-- The value of a decimal digit. -/
def digitValue?
    (digit : Char) :
    Option Nat :=
  if digit.isDigit then some (digit.toNat - '0'.toNat) else none

theorem digitValue?_eq_some_iff
    {digit : Char}
    {value : Nat} :
    digitValue? digit = some value ↔ digit.isDigit ∧ digit.toNat - '0'.toNat = value := by
  simp [digitValue?]

theorem read?_eq_some_iff_digits
    {text : List Char}
    {value : Nat} :
    read? text = some value ↔
      text ≠ [] ∧ text.all Char.isDigit ∧ Nat.ofDigitChars 10 text 0 = value := by
  simp only [read?, Option.ite_none_right_eq_some, Option.some.injEq, and_assoc]

/-- Exactly the decimal numerals are read, each as its value. -/
theorem read?_eq_some_iff
    {text : List Char}
    {value : Nat} :
    read? text = some value ↔ IsNumeral 10 digitValue? value text := by
  rw [read?_eq_some_iff_digits]
  constructor
  · rintro ⟨written, digits, rfl⟩
    induction text using List.reverseRecOn with
    | nil => exact absurd rfl written
    | append_singleton front digit ih =>
        rw [List.all_append, Bool.and_eq_true, List.all_cons, List.all_nil, Bool.and_true] at digits
        have last : digitValue? digit = some (digit.toNat - '0'.toNat) :=
          digitValue?_eq_some_iff.mpr ⟨digits.2, rfl⟩
        rw [Nat.ofDigitChars_append]
        by_cases nothing : front = []
        · subst nothing
          have single : IsNumeral 10 digitValue? _ [digit] := .single last
          simpa [Nat.ofDigitChars] using single
        · exact .longer (ih nothing digits.1) last
  · intro numeral
    induction numeral with
    | single read =>
        rcases digitValue?_eq_some_iff.mp read with ⟨digit, rfl⟩
        simp [digit, Nat.ofDigitChars]
    | longer numeral read ih =>
        rcases digitValue?_eq_some_iff.mp read with ⟨digit, rfl⟩
        rcases ih with ⟨-, digits, rfl⟩
        refine ⟨by simp, by simpa [digit] using digits, ?_⟩
        rw [Nat.ofDigitChars_append]
        rfl

/-- Every number is written with a numeral for it. -/
theorem isNumeral_numeral
    (value : Nat) :
    IsNumeral 10 digitValue? value (numeral value) :=
  read?_eq_some_iff.mp (read?_numeral value)

theorem eq_of_isNumeral_numeral
    {number value : Nat}
    (spelled : IsNumeral 10 digitValue? value (numeral number)) :
    value = number := by
  have read := read?_eq_some_iff.mpr spelled
  rw [read?_numeral] at read
  exact (Option.some.inj read).symm

/-- Exactly the numerals of numbers up to the limit are read within it. -/
theorem readUpTo?_eq_some_iff
    {limit value : Nat}
    {text : List Char} :
    readUpTo? limit text = some value ↔
      IsNumeral 10 digitValue? value text ∧ value ≤ limit := by
  rw [readUpTo?, Option.filter_eq_some_iff, read?_eq_some_iff, decide_eq_true_eq]

theorem digitChar_of_digitValue?
    {digit : Char}
    {value : Nat}
    (read : digitValue? digit = some value) :
    value < 10 ∧ Nat.digitChar value = digit := by
  rcases digitValue?_eq_some_iff.mp read with ⟨isDigit, rfl⟩
  rcases Char.isDigit_iff_toNat.mp isDigit with ⟨least, greatest⟩
  have zero : '0'.toNat = 48 := rfl
  have nine : '9'.toNat = 57 := rfl
  have small : digit.toNat - '0'.toNat < 10 := by
    omega
  refine ⟨small, Char.toNat_inj.mp ?_⟩
  rw [Nat.toNat_digitChar_of_lt_ten small]
  omega

end Decimal

namespace Hexadecimal

theorem digitValue?_lt
    {digit : Char}
    {value : Nat}
    (read : digitValue? digit = some value) :
    value < 16 := by
  have order (first second : Char) : first ≤ second ↔ first.toNat ≤ second.toNat := Iff.rfl
  simp only [digitValue?, Char.isDigit_iff_toNat, order] at read
  grind

theorem readFrom?_append_singleton
    (value : Nat)
    (front : List Char)
    (digit : Char) :
    readFrom? value (front ++ [digit]) =
      (readFrom? value front).bind
        (fun before => (digitValue? digit).map (16 * before + ·)) := by
  rw [readFrom?_append]
  congr 1
  funext before
  cases next : digitValue? digit <;> simp [readFrom?, next]

/-- Exactly the hexadecimal numerals are read, each as its value. -/
theorem read?_eq_some_iff
    {text : List Char}
    {value : Nat} :
    read? text = some value ↔ IsNumeral 16 digitValue? value text := by
  have unfolded (text : List Char) (written : text ≠ []) : read? text = readFrom? 0 text := by
    cases text with
    | nil => exact absurd rfl written
    | cons => rfl
  constructor
  · intro read
    induction text using List.reverseRecOn generalizing value with
    | nil => cases read
    | append_singleton front digit ih =>
        rw [unfolded _ (by simp), readFrom?_append_singleton] at read
        rcases Option.bind_eq_some_iff.mp read with ⟨before, readFront, rest⟩
        rcases Option.map_eq_some_iff.mp rest with ⟨last, readLast, rfl⟩
        by_cases nothing : front = []
        · subst nothing
          cases readFront
          simpa using (.single readLast : IsNumeral 16 digitValue? last [digit])
        · rw [← unfolded front nothing] at readFront
          exact .longer (ih readFront) readLast
  · intro numeral
    induction numeral with
    | single read => simp [read?, readFrom?, read]
    | longer numeral read ih =>
        rw [unfolded _ (by simp), readFrom?_append_singleton, ← unfolded _ numeral.ne_nil, ih, read]
        rfl

/-- Every number is written with a numeral for it. -/
theorem isNumeral_numeral
    (value : Nat) :
    IsNumeral 16 digitValue? value (numeral value) :=
  read?_eq_some_iff.mp (read?_numeral value)

/-- A text of lower-case digits without leading zeros is the numeral of its number. -/
theorem eq_numeral_of_read?
    {text : List Char}
    {value : Nat}
    (lower : ∀ digit ∈ text, digit ∈ lowerDigits)
    (plain : text.head? = some '0' → text = ['0'])
    (read : read? text = some value) :
    text = numeral value :=
  (read?_eq_some_iff.mp read).eq_toDigits (by decide)
    (fun member readDigit => (digitChar_of_digitValue? (lower _ member) readDigit).symm) plain

/-- Only the numeral of zero begins with a zero. -/
theorem numeral_eq_of_head?
    {value : Nat}
    (zero : (numeral value).head? = some '0') :
    numeral value = ['0'] := by
  rw [eq_zero_of_head?_toDigits (by decide) zero]
  rfl

end Hexadecimal

end DnsOverQuic.Text
