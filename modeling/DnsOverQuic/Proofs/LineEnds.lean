import DnsOverQuic.Dns.Presentation
import Mathlib.Algebra.Ring.Nat
import Mathlib.Data.List.TakeDrop
import Mathlib.Data.List.TakeWhile

/-!
# Line ends in texts

How many newlines there are in the text for some octets.  Escaped labels, Base64 and
hexadecimal digits have none, whatever octets they show.  A text that is read as UTF-8 and
a label that is read as Punycode have as many as there are newline octets in what was read:
no sequence of other octets stands for a newline, and no newline octet is dropped.
-/

namespace DnsOverQuic

namespace Text

/-- A code that is no character counts as the character zero. -/
theorem ofNat_eq_newline_iff
    {code : Nat} :
    Char.ofNat code = '\n' ↔ code = 10 := by
  constructor
  · intro same
    by_cases valid : code.isValidChar
    · rw [Char.ofNat, dif_pos valid] at same
      have codes : (Char.ofNatAux code valid).toNat = 10 := by
        rw [same]
        rfl
      exact codes
    · rw [Char.ofNat, dif_neg valid] at same
      cases same
  · rintro rfl
    rfl

/-- Joined parts have the symbols of the parts, if the separator has none of them. -/
theorem count_intercalate
    {symbol : Char}
    {separator : List Char}
    (apart : symbol ∉ separator)
    (parts : List (List Char)) :
    (separator.intercalate parts).count symbol = (parts.map (·.count symbol)).sum := by
  induction parts with
  | nil => simp
  | cons part rest ih =>
      cases rest with
      | nil => simp
      | cons next rest =>
          rw [List.intercalate_cons_cons, List.count_append, List.count_append, ih,
            List.count_eq_zero_of_not_mem apart]
          rfl

/-- Parts without newlines, joined without newlines. -/
theorem newline_not_mem_intercalate
    {separator : List Char}
    {parts : List (List Char)}
    (apart : '\n' ∉ separator)
    (plain : ∀ part ∈ parts, '\n' ∉ part) :
    '\n' ∉ separator.intercalate parts := by
  rw [← List.count_eq_zero, count_intercalate apart, List.sum_eq_zero_iff_forall_eq_nat,
    List.forall_mem_map]
  exact fun part member => List.count_eq_zero_of_not_mem (plain part member)

/-! ## UTF-8 -/

namespace Utf8

variable
    {lower upper : UInt8}
    {count value code : Nat}
    {rest : List UInt8}

theorem le_of_readContinuation
    (read : (readContinuation lower upper count value rest).1 = some code) :
    value ≤ code := by
  induction count generalizing lower upper value rest with
  | zero => exact Nat.le_of_eq (Option.some.inj read)
  | succ count ih =>
      cases rest with
      | nil => cases read
      | cons octet rest =>
          rw [readContinuation] at read
          split at read
          next => exact Nat.le_trans (by omega) (ih read)
          next => cases read

/-- The first continuation octet is worth at least what the lower bound is worth. -/
theorem add_le_of_readContinuation
    (read : (readContinuation lower upper (count + 1) value rest).1 = some code) :
    value * 64 + (lower.toNat - 0x80) ≤ code := by
  cases rest with
  | nil => cases read
  | cons octet rest =>
      rw [readContinuation] at read
      split at read
      next between =>
          have lowest : lower.toNat ≤ octet.toNat := UInt8.le_iff_toNat_le.mp between.1
          exact Nat.le_trans (by omega) (le_of_readContinuation read)
      next => cases read

/-- Continuation octets are no newlines. -/
theorem count_readContinuation
    (high : 0x80 ≤ lower) :
    (readContinuation lower upper count value rest).2.count 10 = rest.count 10 := by
  induction count generalizing lower upper value rest with
  | zero => rfl
  | succ count ih =>
      cases rest with
      | nil => rfl
      | cons octet rest =>
          rw [readContinuation]
          split
          next between =>
              have other : octet ≠ 10 := by
                rintro rfl
                exact absurd (UInt8.le_trans high between.1) (by decide)
              rw [ih (by decide), List.count_cons_of_ne other]
          next => rfl

theorem count_readAfter
    (lead : UInt8)
    (rest : List UInt8) :
    (readAfter lead rest).2.count 10 = rest.count 10 := by
  unfold readAfter
  repeat' split
  all_goals
    first
      | rfl
      | exact count_readContinuation (by decide)

/-- Only the newline octet stands for a newline. -/
theorem readAfter_eq_newline_iff
    {lead : UInt8} :
    (readAfter lead rest).1 = some 10 ↔ lead = 10 := by
  constructor
  · intro read
    unfold readAfter at read
    split at read
    next => exact UInt8.toNat_inj.mp (Option.some.inj read)
    next high =>
        exfalso
        -- Every other character takes continuation octets, and they are worth more than ten.
        simp only [UInt8.lt_iff_toNat_lt, ← UInt8.toNat_inj, UInt8.reduceToNat] at *
        repeat' split at read
        all_goals
          first
            | cases read
            | have bound := add_le_of_readContinuation read
              simp only [UInt8.reduceToNat] at bound
              omega
  · rintro rfl
    rfl

/-- A text has as many newlines as there are newline octets in what it is read from. -/
theorem count_readLossy
    (octets : List UInt8) :
    (readLossy octets).count '\n' = octets.count 10 := by
  unfold readLossy
  fun_induction readEach octets with
  | case1 => rfl
  | case2 lead rest ih =>
      have first : ((readAfter lead rest).1.map Char.ofNat).getD replacement = '\n' ↔
          lead = 10 := by
        refine Iff.trans ?_ (readAfter_eq_newline_iff : (readAfter lead rest).1 = some 10 ↔ _)
        cases (readAfter lead rest).1 with
        | none => simp [replacement]
        | some code => simp [ofNat_eq_newline_iff]
      rw [List.map_cons, List.count_cons, List.count_cons, ih, count_readAfter]
      simp only [beq_iff_eq, first]

end Utf8

/-! ## Punycode -/

namespace Punycode

/-- The character that is placed is beyond ASCII. -/
theorem count_placeCharacter?
    {state next : Reading}
    {position : Nat}
    (beyond : 128 ≤ state.code)
    (placed : placeCharacter? state position = some next) :
    128 ≤ next.code ∧ next.output.count '\n' = state.output.count '\n' := by
  unfold placeCharacter? at placed
  dsimp only at placed
  split at placed
  next =>
      have later : 128 ≤ state.code + position / (state.output.length + 1) :=
        Nat.le_trans beyond (Nat.le_add_right _ _)
      have other : Char.ofNat (state.code + position / (state.output.length + 1)) ≠ '\n' :=
        mt ofNat_eq_newline_iff.mp (by omega)
      cases placed
      refine ⟨later, ?_⟩
      rw [List.count_append, List.count_cons_of_ne other, ← List.count_append,
        List.take_append_drop]
  next => cases placed

/-- Digits are no newlines, and reading them adds none. -/
theorem count_readDigits?
    {digits text : List Char}
    {state : Reading}
    (beyond : 128 ≤ state.code)
    (read : readDigits? digits state = some text) :
    text.count '\n' = state.output.count '\n' ∧ '\n' ∉ digits := by
  induction digits generalizing state with
  | nil =>
      rw [readDigits?] at read
      split at read
      next =>
          cases read
          exact ⟨rfl, List.not_mem_nil⟩
      next => cases read
  | cons symbol rest ih =>
      rw [readDigits?] at read
      rcases Option.bind_eq_some_iff.mp read with ⟨value, digit, read⟩
      have other : '\n' ≠ symbol := by
        rintro rfl
        cases digit
      dsimp only at read
      split at read
      next => cases read
      next =>
          split at read
          next =>
              rcases Option.bind_eq_some_iff.mp read with ⟨next, placed, read⟩
              rcases count_placeCharacter? beyond placed with ⟨beyond', same⟩
              rcases ih beyond' read with ⟨kept, plain⟩
              exact ⟨kept.trans same, List.not_mem_cons_of_ne_of_not_mem other plain⟩
          next =>
              rcases ih (by exact beyond) read with ⟨kept, plain⟩
              exact ⟨kept, List.not_mem_cons_of_ne_of_not_mem other plain⟩

/-- A text that is read has the newlines of its code. -/
theorem count_read?
    {code text : List Char}
    (read : read? code = some text) :
    text.count '\n' = code.count '\n' := by
  have whole : code.reverse.takeWhile (· != '-') ++ code.reverse.dropWhile (· != '-') =
      code.reverse :=
    List.takeWhile_append_dropWhile
  rw [← List.count_reverse (l := code), ← whole, List.count_append]
  unfold read? at read
  split at read
  next => cases read
  next =>
      rw [List.span_eq_takeWhile_dropWhile] at read
      cases behind : code.reverse.dropWhile (· != '-') with
      | nil =>
          rw [behind] at read
          rcases count_readDigits? (Nat.le_refl 128) read with ⟨kept, plain⟩
          rw [kept, List.count_eq_zero_of_not_mem (mt List.mem_reverse.mpr plain)]
          rfl
      | cons hyphen front =>
          have isHyphen : hyphen ≠ '\n' := by
            have ends := List.head_dropWhile_not (· != '-') (behind ▸ List.cons_ne_nil hyphen front)
            simp only [behind, List.head_cons] at ends
            rintro rfl
            cases ends
          rw [behind] at read
          rcases count_readDigits? (Nat.le_refl 128) read with ⟨kept, plain⟩
          rw [kept, List.count_eq_zero_of_not_mem (mt List.mem_reverse.mpr plain),
            List.count_cons_of_ne isHyphen, List.count_reverse, Nat.zero_add]

end Punycode

/-! ## Base64 -/

namespace Base64

theorem symbol_ne_newline
    (value : UInt8) :
    symbol value ≠ '\n' := by
  unfold symbol
  repeat' split
  all_goals
    first
      | decide
      | exact mt ofNat_eq_newline_iff.mp (by simp; try omega)

/-- What is written is one line. -/
theorem newline_not_mem_write
    (octets : List UInt8) :
    '\n' ∉ write octets := by
  fun_induction write octets with
  | case1 => exact List.not_mem_nil
  | case2 | case3 => simp [(symbol_ne_newline _).symm]
  | case4 first second third rest ih => simp [(symbol_ne_newline _).symm, ih]

end Base64

/-! ## Hexadecimal digits -/

namespace Hexadecimal

/-- Pairs of digits are one line. -/
theorem newline_not_mem_write
    (octets : List UInt8) :
    '\n' ∉ write octets := by
  have digit {value : Nat} (small : value < 16) : '\n' ≠ Nat.digitChar value := by
    intro same
    exact absurd (same ▸ digitChar_mem_lowerDigits small) (by decide)
  intro member
  rcases List.mem_flatMap.mp member with ⟨octet, -, pair⟩
  have bound := octet.toNat_lt
  simp only [List.mem_cons, List.not_mem_nil, or_false] at pair
  exact pair.elim (digit (by omega)) (digit (by omega))

end Hexadecimal

end Text

namespace Dns

open Text

/-! ## Labels -/

theorem lower_eq_newline_iff
    {symbol : Char} :
    Alphabet.lower symbol = '\n' ↔ symbol = '\n' := by
  constructor
  · intro same
    unfold Alphabet.lower at same
    split at same
    next => exact absurd (ofNat_eq_newline_iff.mp same) (by omega)
    next =>
        split at same
        next => exact absurd (ofNat_eq_newline_iff.mp same) (by omega)
        next =>
            split at same
            next small =>
                rw [ofNat_eq_newline_iff.mp same] at small
                exact absurd small (by decide)
            next => exact same
  · rintro rfl
    decide

theorem count_lower
    (text : List Char) :
    (text.map Alphabet.lower).count '\n' = text.count '\n' := by
  simp only [List.count, List.countP_map]
  congr 1
  funext symbol
  simp [lower_eq_newline_iff]

/-- A label that is shown in letters has the newlines of its ASCII form. -/
theorem Internationalised.count_ofMarked?
    {text label : List Char}
    (marked : ofMarked? text = some label) :
    label.count '\n' = text.count '\n' := by
  rcases Option.bind_eq_some_iff.mp marked with ⟨code, unmarked, read⟩
  have form : text = 'x' :: 'n' :: '-' :: '-' :: code := by
    unfold unmarked? at unmarked
    split at unmarked
    next => cases unmarked; rfl
    next => cases unmarked
  have decoded : Punycode.read? (code.map Alphabet.lower) = some label :=
    (Option.filter_eq_some_iff.mp read).1
  rw [Punycode.count_read? decoded, count_lower, form]
  rfl

namespace Presentation

theorem symbolOf_eq_newline_iff
    {octet : UInt8} :
    symbolOf octet = '\n' ↔ octet = 10 := by
  rw [symbolOf, ofNat_eq_newline_iff, ← UInt8.toNat_inj]
  rfl

theorem count_symbols
    (octets : Octets) :
    (octets.map symbolOf).count '\n' = octets.count 10 := by
  simp only [List.count, List.countP_map]
  congr 1
  funext octet
  simp [symbolOf_eq_newline_iff]

theorem octalDigit_ne_newline
    (value : UInt8) :
    octalDigit value ≠ '\n' := by
  have zero : '0'.toNat = 48 := rfl
  exact mt ofNat_eq_newline_iff.mp (by omega)

/-- Whatever an octet is, it is shown without a newline. -/
theorem newline_not_mem_octetText
    (front : Bool)
    (octet : UInt8) :
    '\n' ∉ octetText front octet := by
  have newline : isPlain front 10 = false := by
    cases front <;> decide
  have itself (other : octet ≠ 10) : symbolOf octet ≠ '\n' :=
    mt symbolOf_eq_newline_iff.mp other
  unfold octetText
  split
  next plain =>
      have other : octet ≠ 10 := by
        rintro rfl
        cases newline.symm.trans plain
      simp [(itself other).symm]
  next =>
      split
      next between =>
          have other : octet ≠ 10 := by
            rintro rfl
            exact absurd between.1 (by decide)
          simp [(itself other).symm]
      next => simp [(octalDigit_ne_newline _).symm]

theorem newline_not_mem_escaped
    (label : Label) :
    '\n' ∉ escaped label := by
  cases label with
  | nil => exact List.not_mem_nil
  | cons first rest => simp [escaped, newline_not_mem_octetText]

end Presentation

end Dns

end DnsOverQuic
