import DnsOverQuic.Proofs.WireForm

/-!
# Writing in wire form

A sequence of writes that is not refused adds octets behind what was written.
Which octets these are depends, for a name, on the names that were written
before: a name none of whose ends is known is written in full.  Its own ends
become known only after its labels, and none of them is an end of another length,
so a name is never shortened by itself.
-/

namespace DnsOverQuic.Dns.Wire

/-! ## Extending the output -/

/-- The output with octets behind what was written, and other known names. -/
def Output.extend
    (octets : Octets)
    (targets : List (List Label × Nat))
    (output : Output) :
    Output where
  written := output.written ++ octets
  leftover := output.leftover.drop octets.length
  targets := targets

namespace Output

variable
    (octets : Octets)
    (targets : List (List Label × Nat))
    (output : Output)

@[simp]
theorem toList_written_extend :
    (output.extend octets targets).written.toList = output.written.toList ++ octets :=
  Array.toList_appendList

@[simp]
theorem position_extend :
    (output.extend octets targets).position = output.position + octets.length := by
  rw [position, position, ← Array.length_toList, toList_written_extend, List.length_append,
    Array.length_toList, Nat.add_assoc]

theorem extend_extend
    (octets' : Octets)
    (targets' : List (List Label × Nat)) :
    (output.extend octets targets).extend octets' targets' =
      output.extend (octets ++ octets') targets' := by
  have joined : output.written ++ octets ++ octets' = output.written ++ (octets ++ octets') := by
    apply Array.ext'
    simp
  simp [extend, joined]

@[simp]
theorem extend_nil :
    output.extend [] output.targets = output := by
  simp [extend]

end Output

/-- From an output on, a sequence of writes adds exactly the given octets. -/
def Puts
    (write : Writer Unit)
    (output : Output)
    (octets : Octets) : Prop :=
  ∃ targets, write output = .ok () (output.extend octets targets)

/-- Wherever there is room for them, a sequence of writes adds exactly the given octets. -/
def PutsAnywhere
    (write : Writer Unit)
    (octets : Octets) : Prop :=
  ∀ output, output.position + octets.length ≤ Protocol.maxMessageSize → Puts write output octets

section Puts

variable
    {write next : Writer Unit}
    {output : Output}
    {octets octets' : Octets}

theorem run_bind_of_ok
    {α β : Type}
    {write : Writer α}
    {next : α → Writer β}
    {output' : Output}
    {answer : α}
    (written : write output = .ok answer output') :
    (write >>= next) output = next answer output' := by
  change EStateM.bind write next output = _
  rw [EStateM.bind, written]

/-- Octets are added one sequence after the other. -/
theorem Puts.bind
    (first : Puts write output octets)
    (second : PutsAnywhere next octets')
    (room : output.position + (octets ++ octets').length ≤ Protocol.maxMessageSize) :
    Puts (write >>= fun _ => next) output (octets ++ octets') := by
  rcases first with ⟨targets, written⟩
  have enough : (output.extend octets targets).position + octets'.length ≤
      Protocol.maxMessageSize := by
    rw [Output.position_extend, Nat.add_assoc, ← List.length_append]
    exact room
  rcases second _ enough with ⟨targets', written'⟩
  refine ⟨targets', (run_bind_of_ok written).trans (written'.trans ?_)⟩
  rw [Output.extend_extend]

theorem PutsAnywhere.bind
    (first : PutsAnywhere write octets)
    (second : PutsAnywhere next octets') :
    PutsAnywhere (write >>= fun _ => next) (octets ++ octets') := by
  intro output room
  have enough : output.position + octets.length ≤ Protocol.maxMessageSize := by
    rw [List.length_append] at room
    omega
  exact (first output enough).bind second room

/-- Octets are put where there is room for them, and no name becomes known. -/
theorem run_put
    (room : output.position + octets.length ≤ Protocol.maxMessageSize) :
    put octets output = .ok () (output.extend octets output.targets) :=
  if_pos room

theorem putsAnywhere_put
    (octets : Octets) :
    PutsAnywhere (put octets) octets :=
  fun output room => ⟨output.targets, run_put room⟩

end Puts

/-! ## Names -/

theorem run_putCounted
    {octets : Octets}
    {output : Output}
    (room : output.position + (octets.length + 1) ≤ Protocol.maxMessageSize) :
    putCounted octets output =
      .ok () (output.extend (UInt8.ofNat octets.length :: octets) output.targets) := by
  have counted : put [UInt8.ofNat octets.length] output = _ := run_put (by
    rw [List.length_singleton]
    omega)
  have rest : put octets (output.extend [UInt8.ofNat octets.length] output.targets) = _ :=
    run_put (by
      rw [Output.position_extend, List.length_singleton]
      omega)
  refine (run_bind_of_ok counted).trans (rest.trans ?_)
  rw [Output.extend_extend]
  rfl

/-- Labels are written each behind its length, and no name becomes known. -/
theorem run_putLabelOctets
    (labels : List Label)
    (output : Output)
    (room : output.position + (labelOctets labels).length ≤ Protocol.maxMessageSize) :
    labels.forM putCounted output =
      .ok () (output.extend (labelOctets labels) output.targets) := by
  induction labels generalizing output with
  | nil =>
      rw [labelOctets, List.flatMap_nil, Output.extend_nil]
      rfl
  | cons label labels ih =>
      have split : labelOctets (label :: labels) =
          (UInt8.ofNat label.length :: label) ++ labelOctets labels := List.flatMap_cons
      rw [split, List.length_append, List.length_cons] at room
      have first : putCounted label output = _ := run_putCounted (by omega)
      have rest := ih (output.extend (UInt8.ofNat label.length :: label) output.targets) (by
          rw [Output.position_extend, List.length_cons]
          omega)
      refine (run_bind_of_ok first).trans (rest.trans ?_)
      rw [Output.extend_extend, split]
      rfl

/-- The ends of labels do not have more labels than these. -/
theorem length_le_of_mem_labelEnds
    {labels : List Label}
    {offset : Nat}
    {entry : List Label × Nat}
    (member : entry ∈ labelEnds offset labels) :
    entry.1.length ≤ labels.length := by
  induction labels generalizing offset with
  | nil => cases member
  | cons label labels ih =>
      rcases List.mem_cons.mp member with rfl | member
      · exact Nat.le_refl _
      · exact Nat.le_succ_of_le (ih member)

/-- The ends of labels are different from each other. -/
theorem pairwise_labelEnds
    (offset : Nat)
    (labels : List Label) :
    (labelEnds offset labels).Pairwise (fun entry entry' => entry.1 ≠ entry'.1) := by
  induction labels generalizing offset with
  | nil => exact .nil
  | cons label labels ih =>
      refine .cons ?_ (ih _)
      intro entry member same
      have shorter := length_le_of_mem_labelEnds member
      rw [← same] at shorter
      exact absurd shorter (Nat.not_succ_le_self _)

/-- A name is closed by the root label if none of its ends is known. -/
theorem puts_closeName
    (pointing : Bool)
    (past : Nat)
    {ends : List (List Label × Nat)}
    (distinct : ends.Pairwise (fun entry entry' => entry.1 ≠ entry'.1))
    (output : Output)
    (unknown : ∀ entry ∈ ends, output.targets.lookup entry.1 = none)
    (room : output.position + 1 ≤ Protocol.maxMessageSize) :
    Puts (closeName pointing past ends) output [0] := by
  -- What is remembered on the way is longer than the ends that follow, so these stay unknown.
  induction ends generalizing output with
  | nil => exact putsAnywhere_put [0] output room
  | cons first ends ih =>
      rcases first with ⟨labels, offset⟩
      rcases List.pairwise_cons.mp distinct with ⟨different, distinct⟩
      have absent : output.targets.lookup labels = none :=
        unknown (labels, offset) (List.mem_cons_self ..)
      have others : ∀ entry ∈ ends, output.targets.lookup entry.1 = none :=
        fun entry member => unknown entry (List.mem_cons_of_mem _ member)
      have known : (get : Writer Output) output = .ok output output := rfl
      by_cases reachable : past < pointerReach
      · have remembered : ∀ entry ∈ ends,
            (output.remember labels offset).targets.lookup entry.1 = none := by
          intro entry member
          change List.lookup entry.1 ((labels, offset) :: output.targets) = none
          rw [List.lookup_cons, beq_eq_false_iff_ne.mpr (different entry member).symm]
          exact others entry member
        rcases ih distinct _ remembered room with ⟨targets, written⟩
        refine ⟨targets, (run_bind_of_ok known).trans ?_⟩
        simp only [absent, if_pos reachable]
        exact written
      · rcases ih distinct _ others room with ⟨targets, written⟩
        refine ⟨targets, (run_bind_of_ok known).trans ?_⟩
        simp only [absent, if_neg reachable]
        exact written

/-- None of the ends of labels that are about to be written is known. -/
def Output.Unknown
    (output : Output)
    (labels : List Label) : Prop :=
  ∀ entry ∈ labelEnds output.position labels, output.targets.lookup entry.1 = none

/-- A name none of whose ends is known is written in full. -/
theorem puts_putLabels
    (pointing : Bool)
    {labels : List Label}
    {output : Output}
    (unknown : output.Unknown labels)
    (room : output.position + wireLength labels ≤ Protocol.maxMessageSize) :
    Puts (putLabels pointing labels) output (nameOctets labels) := by
  have length := length_nameOctets labels
  rw [nameOctets, List.length_append, List.length_singleton] at length
  have front := run_putLabelOctets labels output (by omega)
  have back := puts_closeName pointing
    (output.extend (labelOctets labels) output.targets).position
    (pairwise_labelEnds output.position labels)
    (output.extend (labelOctets labels) output.targets) unknown (by
      rw [Output.position_extend]
      omega)
  rcases back with ⟨targets, closed⟩
  refine ⟨targets, (run_bind_of_ok front).trans (closed.trans ?_)⟩
  rw [Output.extend_extend]
  rfl

/-! ## Questions and records -/

/-- A question at a name none of whose ends is known is written in full. -/
theorem puts_putQuestion
    {question : Question}
    {output : Output}
    (unknown : output.Unknown question.name.labels)
    (room : output.position + (questionOctets question).length ≤ Protocol.maxMessageSize) :
    Puts (putQuestion question) output (questionOctets question) := by
  have named : Puts (putName question.name) output (nameOctets question.name.labels) :=
    puts_putLabels true unknown (by
      rw [length_questionOctets] at room
      omega)
  exact named.bind ((putsAnywhere_put _).bind (putsAnywhere_put _)) room

/-- The length of what follows is entered in the place that was left for it. -/
theorem closeLength_extend
    (data : Octets)
    (targets : List (List Label × Nat))
    (output : Output) :
    (output.extend (Octets.ofUInt16 0 ++ data) targets).closeLength output.position =
      output.extend (Octets.ofUInt16 (UInt16.ofNat data.length) ++ data) targets := by
  have place : output.position - headerSize = output.written.size :=
    Nat.add_sub_cancel_left ..
  have length : output.position + (Octets.ofUInt16 0 ++ data).length - (output.position + 2) =
      data.length := by
    rw [List.length_append, Octets.length_ofUInt16]
    omega
  rw [Output.closeLength, Output.position_extend, length, place]
  unfold Output.extend
  congr 1
  apply Array.ext'
  simp [Octets.ofUInt16]

/-- Data are written behind their length, which is entered when the data are there. -/
theorem putsAnywhere_counted
    {data : RecordData}
    {octets : Octets}
    (writesData : PutsAnywhere (putData data) octets) :
    PutsAnywhere
      (do
        let length := (← get).position
        putWord 0
        putData data
        modify (Output.closeLength length))
      (Octets.ofUInt16 (UInt16.ofNat octets.length) ++ octets) := by
  intro output room
  have known : (get : Writer Output) output = .ok output output := rfl
  rcases (putsAnywhere_put (Octets.ofUInt16 0)).bind writesData output room with
    ⟨targets, filled⟩
  refine ⟨targets, (run_bind_of_ok known).trans ?_⟩
  rw [← bind_assoc]
  refine (run_bind_of_ok filled).trans ?_
  exact congrArg (EStateM.Result.ok ()) (closeLength_extend octets targets output)

theorem putsAnywhere_noOptions :
    PutsAnywhere (putData (.opt [])) [] :=
  fun output _ => ⟨output.targets, congrArg (EStateM.Result.ok ()) output.extend_nil.symm⟩

/-- A record at a name none of whose ends is known is written in full if its data are. -/
theorem puts_putRecord
    (record : Record)
    {data : Octets}
    (writesData : PutsAnywhere (putData record.data) data)
    (output : Output)
    (unknown : output.Unknown record.owner.labels)
    (room : output.position + (recordOctets record data).length ≤ Protocol.maxMessageSize) :
    Puts (putRecord record) output (recordOctets record data) := by
  have named : Puts (putName record.owner) output (nameOctets record.owner.labels) :=
    puts_putLabels true unknown (by
      rw [length_recordOctets] at room
      omega)
  exact named.bind ((putsAnywhere_put _).bind ((putsAnywhere_put _).bind
    ((putsAnywhere_put _).bind (putsAnywhere_counted writesData)))) room

end DnsOverQuic.Dns.Wire

/-! ## Messages -/

namespace DnsOverQuic.Dns.Message

open Wire

/-- The body of a message with one question and extension data, if it is not too long. -/
theorem body?_of_extension
    (header : Header)
    (question : Question)
    (edns : Edns)
    {data : Octets}
    (writesData : PutsAnywhere (putData (.opt edns.options)) data)
    (room : headerSize + (wireLength question.name.labels + 4) + (11 + data.length) ≤
      Protocol.maxMessageSize) :
    (Message.mk header [question] [] [] [] (some edns)).body? = some {
      counts := ⟨1, 0, 0, 1⟩
      cut := false
      octets :=
        questionOctets question ++
          recordOctets (extensionRecord header.responseCode edns) data } := by
  have start : ({} : Output).position = headerSize := rfl
  have asked : Puts (putQuestion question) {} (questionOctets question) :=
    puts_putQuestion (fun _ _ => rfl) (by
      rw [length_questionOctets, start]
      omega)
  rcases asked with ⟨targets, asked⟩
  have questions : [question].forM putQuestion {} = .ok () _ := run_bind_of_ok asked
  have extended := puts_putRecord (extensionRecord header.responseCode edns) writesData
    (({} : Output).extend (questionOctets question) targets)
    (fun _ member => absurd member List.not_mem_nil) (by
      rw [Output.position_extend, start, length_questionOctets, length_recordOctets]
      change _ + (1 + 10 + data.length) ≤ _
      omega)
  rcases extended with ⟨targets', extended⟩
  rw [Output.extend_extend] at extended
  simp only [body?, questions, Option.map_some, Option.toList_some, writeSection, extended]
  simp [Output.octets, Output.extend]

/-- A message with one question and extension data is written in full if it is not too long. -/
theorem encode?_of_extension
    (header : Header)
    (question : Question)
    (edns : Edns)
    {data : Octets}
    (writesData : PutsAnywhere (putData (.opt edns.options)) data)
    (room : headerSize + (wireLength question.name.labels + 4) + (11 + data.length) ≤
      Protocol.maxMessageSize) :
    (Message.mk header [question] [] [] [] (some edns)).encode? =
      some (Octets.ofUInt16 header.id ++ (headerTail header ⟨1, 0, 0, 1⟩ header.truncated ++
        (questionOctets question ++
          recordOctets (extensionRecord header.responseCode edns) data))) := by
  simp only [encode?, tail?, body?_of_extension header question edns writesData room,
    Option.map_some, Bool.or_false]
  rfl

end DnsOverQuic.Dns.Message
