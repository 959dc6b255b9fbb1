/-!
# UTF-8

Reading octets as UTF-8, strictly or with replacement.  In the replacing form
each longest part of an ill-formed sequence that could begin a character gives
one replacement character.
-/

namespace DnsOverQuic.Text.Utf8

/-- The character that stands for an ill-formed sequence. -/
def replacement : Char := Char.ofNat 0xfffd

/--
Read `count` continuation octets after `value`.  The first must lie between
`lower` and `upper`; the rest of the input begins at the first octet that does
not fit.
-/
def readContinuation
    (lower upper : UInt8) :
    Nat → Nat → List UInt8 → Option Nat × List UInt8
  | 0, value, rest => (some value, rest)
  | _ + 1, _, [] => (none, [])
  | count + 1, value, octet :: rest =>
      if lower ≤ octet ∧ octet ≤ upper then
        readContinuation 0x80 0xbf count (value * 64 + (octet.toNat - 0x80)) rest
      else
        (none, octet :: rest)

/-- Read what follows the first octet of a character. -/
def readAfter
    (lead : UInt8)
    (rest : List UInt8) :
    Option Nat × List UInt8 :=
  if lead < 0x80 then (some lead.toNat, rest)
  else if lead < 0xc2 then (none, rest)
  else if lead < 0xe0 then readContinuation 0x80 0xbf 1 (lead.toNat - 0xc0) rest
  else if lead = 0xe0 then readContinuation 0xa0 0xbf 2 0 rest
  else if lead = 0xed then readContinuation 0x80 0x9f 2 0xd rest
  else if lead < 0xf0 then readContinuation 0x80 0xbf 2 (lead.toNat - 0xe0) rest
  else if lead = 0xf0 then readContinuation 0x90 0xbf 3 0 rest
  else if lead < 0xf4 then readContinuation 0x80 0xbf 3 (lead.toNat - 0xf0) rest
  else if lead = 0xf4 then readContinuation 0x80 0x8f 3 4 rest
  else (none, rest)

theorem length_readContinuation_le
    (lower upper : UInt8)
    (count value : Nat)
    (rest : List UInt8) :
    (readContinuation lower upper count value rest).2.length ≤ rest.length := by
  induction count generalizing lower upper value rest with
  | zero => simp [readContinuation]
  | succ count hypothesis =>
      cases rest with
      | nil => simp [readContinuation]
      | cons octet rest =>
          simp only [readContinuation]
          split
          · exact Nat.le_succ_of_le (hypothesis _ _ _ _)
          · exact Nat.le_refl _

theorem length_readAfter_le
    (lead : UInt8)
    (rest : List UInt8) :
    (readAfter lead rest).2.length ≤ rest.length := by
  unfold readAfter
  repeat' split
  all_goals
    first
      | exact Nat.le_refl _
      | exact length_readContinuation_le _ _ _ _ _

/-- Read characters; an ill-formed part gives no character in its place. -/
def readEach
    (octets : List UInt8) :
    List (Option Char) :=
  match octets with
  | [] => []
  | lead :: rest =>
      (readAfter lead rest).1.map Char.ofNat :: readEach (readAfter lead rest).2
  termination_by octets.length
  decreasing_by
    exact Nat.lt_succ_of_le (length_readAfter_le lead rest)

/-- Read octets as UTF-8, with replacement of what is ill-formed. -/
def readLossy
    (octets : List UInt8) :
    List Char :=
  (readEach octets).map (·.getD replacement)

/-- Read octets as UTF-8. -/
def read?
    (octets : List UInt8) :
    Option (List Char) :=
  let symbols := readEach octets
  if symbols.all Option.isSome then
    some (symbols.filterMap id)
  else
    none

end DnsOverQuic.Text.Utf8
