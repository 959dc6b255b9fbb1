import Mathlib.Data.List.Nodup

/-!
# Entries with unique keys

Where no two entries agree on what is searched for, a search finds the entry
that is there, and the order of the entries is without effect.
-/

namespace DnsOverQuic

/-- The only entry with a property is the first one. -/
theorem find?_of_unique
    {α : Type}
    {property : α → Bool}
    {entries : List α}
    {entry : α}
    (among : entry ∈ entries)
    (holds : property entry = true)
    (unique : ∀ other ∈ entries, property other = true → other = entry) :
    entries.find? property = some entry := by
  cases found : entries.find? property with
  | none => exact absurd holds (List.find?_eq_none.mp found entry among)
  | some other =>
      rw [unique other (List.mem_of_find?_eq_some found) (List.find?_some found)]

section Lookup

variable
    {α β : Type}
    [BEq α]
    [LawfulBEq α]
    {entries others : List (α × β)}

/-- What is found by a key is entered with it. -/
theorem lookup_eq_some_iff_mem
    (distinct : (entries.map Prod.fst).Nodup)
    {key : α}
    {value : β} :
    entries.lookup key = some value ↔ (key, value) ∈ entries := by
  rw [List.lookup_eq_some_iff]
  constructor
  · rintro ⟨before, after, rfl, -⟩
    exact List.mem_append_right before List.mem_cons_self
  · intro among
    rcases List.append_of_mem among with ⟨before, after, rfl⟩
    rw [List.map_append, List.nodup_append] at distinct
    refine ⟨before, after, rfl, fun entry earlier => bne_iff_ne.mpr fun same => ?_⟩
    exact distinct.2.2 _ (List.mem_map_of_mem earlier) _ List.mem_cons_self same.symm

/-- The order of entries is without effect on what is found. -/
theorem lookup_eq_of_perm
    (perm : entries.Perm others)
    (distinct : (others.map Prod.fst).Nodup)
    (key : α) :
    entries.lookup key = others.lookup key := by
  have also := (perm.map Prod.fst).nodup_iff.mpr distinct
  ext value
  rw [lookup_eq_some_iff_mem also, lookup_eq_some_iff_mem distinct, perm.mem_iff]

end Lookup

end DnsOverQuic
