import DnsOverQuic.Octets

/-!
# Domain names

A name is a sequence of labels of one to 63 octets, at most 255 octets on the
wire, where each label is preceded by its length and the root label closes the
name.  A name that was read from text need not be absolute; on the wire every
name ends at the root.  The size bounds are part of the type.
-/

namespace DnsOverQuic.Dns

/-- One label of a name: any octets. -/
abbrev Label := Octets

/-- The octets that labels and the closing root label take on the wire. -/
def wireLength
    (labels : List Label) :
    Nat :=
  labels.foldr (fun label length => label.length + 1 + length) 1

/-- A domain name of admissible size. -/
structure Name where
  labels : List Label
  absolute : Bool
  labels_sized : ∀ label ∈ labels, 1 ≤ label.length ∧ label.length ≤ 63
  wireLength_le : wireLength labels ≤ 255
deriving DecidableEq

namespace Name

/-- The root of the name tree. -/
def root : Name where
  labels := []
  absolute := true
  labels_sized := by simp
  wireLength_le := by decide

instance : Inhabited Name := ⟨root⟩

/-- The name with the given labels, if their sizes are admissible. -/
def ofLabels?
    (labels : List Label)
    (absolute : Bool) :
    Option Name :=
  if sized :
      (∀ label ∈ labels, 1 ≤ label.length ∧ label.length ≤ 63) ∧
        wireLength labels ≤ 255 then
    some ⟨labels, absolute, sized.1, sized.2⟩
  else
    none

/-- True for the absolute name without labels. -/
def isRoot
    (name : Name) :
    Bool :=
  name.labels.isEmpty && name.absolute

/-- An octet with an ASCII capital replaced by the small letter. -/
def lowerOctet
    (octet : UInt8) :
    UInt8 :=
  if 65 ≤ octet ∧ octet ≤ 90 then octet + 32 else octet

/-- The labels with ASCII capitals replaced by small letters. -/
def lowerLabels
    (name : Name) :
    List Label :=
  name.labels.map (fun label => label.map lowerOctet)

/-- A name read back from its own labels is itself. -/
@[simp]
theorem ofLabels?_labels
    (name : Name) :
    ofLabels? name.labels name.absolute = some name := by
  unfold ofLabels?
  rw [dif_pos ⟨name.labels_sized, name.wireLength_le⟩]

/-- The labels of a name are the given ones. -/
theorem labels_of_ofLabels?
    {labels : List Label}
    {absolute : Bool}
    {name : Name}
    (built : ofLabels? labels absolute = some name) :
    name.labels = labels ∧ name.absolute = absolute := by
  unfold ofLabels? at built
  split at built
  · cases built
    exact ⟨rfl, rfl⟩
  · cases built

end Name

end DnsOverQuic.Dns
