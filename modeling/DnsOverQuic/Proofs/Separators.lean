/-!
# Cutting texts at separators

Readers cut a text at each occurrence of a separator.  None of the parts contains the
separator, so a text that is put together of such parts is cut into them again: in two
at its only separator, and in lines at the ends of the lines.
-/

namespace DnsOverQuic

/-- No part contains the separator at which a text is cut. -/
theorem not_mem_of_mem_splitOn
    {separator : Char}
    {text part : List Char}
    (member : part ∈ text.splitOn separator) :
    separator ∉ part := by
  induction text generalizing part with
  | nil =>
      rw [List.splitOn_nil, List.mem_singleton] at member
      exact member ▸ List.not_mem_nil
  | cons symbol rest ih =>
      rw [List.splitOn_cons_eq_if_modifyHead] at member
      split at member
      next =>
          rcases List.mem_cons.mp member with rfl | later
          · exact List.not_mem_nil
          · exact ih later
      next other =>
          cases parts : rest.splitOn separator with
          | nil => exact absurd parts (List.splitOn_ne_nil separator rest)
          | cons first others =>
              rw [parts, List.modifyHead_cons] at member
              rcases List.mem_cons.mp member with rfl | later
              · have apart : separator ≠ symbol := by
                  rintro rfl
                  exact other BEq.rfl
                have plain : separator ∉ first := ih (parts ▸ List.mem_cons_self)
                simp [apart, plain]
              · exact ih (parts ▸ List.mem_cons_of_mem first later)

/-- What stands before the first separator and behind it is determined by the text. -/
theorem append_separator_inj
    {separator : Char}
    {front front' back back' : List Char}
    (plain : separator ∉ front)
    (plain' : separator ∉ front')
    (same : front ++ separator :: back = front' ++ separator :: back') :
    front = front' ∧ back = back' := by
  have parts := congrArg (List.splitOn separator) same
  rw [List.splitOn_append_cons_self_of_not_mem plain,
    List.splitOn_append_cons_self_of_not_mem plain'] at parts
  have fronts := (List.cons.inj parts).1
  rw [fronts] at same
  exact ⟨fronts, (List.cons.inj (List.append_cancel_left same)).2⟩

/-- What stands before the last separator and behind it is determined by the text. -/
theorem append_last_separator_inj
    {separator : Char}
    {front front' back back' : List Char}
    (plain : separator ∉ back)
    (plain' : separator ∉ back')
    (same : front ++ separator :: back = front' ++ separator :: back') :
    front = front' ∧ back = back' := by
  have reversed := congrArg List.reverse same
  simp only [List.reverse_append, List.reverse_cons, List.append_assoc, List.singleton_append]
    at reversed
  have parts := append_separator_inj (mt List.mem_reverse.mp plain) (mt List.mem_reverse.mp plain')
    reversed
  exact ⟨List.reverse_inj.mp parts.2, List.reverse_inj.mp parts.1⟩

/-- A text is cut in two exactly at its only separator. -/
theorem splitOn_eq_pair_iff
    {separator : Char}
    {text front back : List Char} :
    text.splitOn separator = [front, back] ↔
      text = front ++ separator :: back ∧ separator ∉ front ∧ separator ∉ back := by
  constructor
  · intro parts
    have joined : [separator].intercalate (text.splitOn separator) = text :=
      List.intercalate_splitOn separator
    rw [parts, List.intercalate_cons_cons, List.intercalate_singleton] at joined
    refine ⟨by rw [← joined]; simp, ?_, ?_⟩
    · exact not_mem_of_mem_splitOn (parts ▸ List.mem_cons_self)
    · exact not_mem_of_mem_splitOn (parts ▸ List.mem_cons_of_mem front List.mem_cons_self)
  · rintro ⟨rfl, plain, plain'⟩
    rw [List.splitOn_append_cons_self_of_not_mem plain, List.splitOn_eq_singleton plain']

/-- Lines that each end in a newline are the lines of the whole, and the last one is empty. -/
theorem splitOn_lines
    {lines : List (List Char)}
    (unbroken : ∀ line ∈ lines, '\n' ∉ line) :
    (lines.flatMap (· ++ ['\n'])).splitOn '\n' = lines ++ [[]] := by
  induction lines with
  | nil => rfl
  | cons first rest ih =>
      rw [List.flatMap_cons, List.append_assoc, List.singleton_append,
        List.splitOn_append_cons_self_of_not_mem (unbroken first List.mem_cons_self),
        ih (fun line member => unbroken line (List.mem_cons_of_mem first member)),
        List.cons_append]

end DnsOverQuic
