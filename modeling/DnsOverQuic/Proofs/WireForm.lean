import DnsOverQuic.Proofs.MessageHeader

/-!
# The wire form of names, questions and records

The wire form of a name is its labels, each behind its length, up to the root
label or to a pointer to labels that stand before it.  This module gives the wire
forms of names, questions and records and shows that each of them is read back,
whatever octets follow it.  A message is read back if its sections are.
-/

namespace DnsOverQuic.Dns

/-! ## Names -/

/-- The octets of labels, each behind its length. -/
def labelOctets
    (labels : List Label) :
    Octets :=
  labels.flatMap (fun label => UInt8.ofNat label.length :: label)

/-- The octets of a name with the given labels. -/
def nameOctets
    (labels : List Label) :
    Octets :=
  labelOctets labels ++ [0]

@[simp]
theorem nameOctets_nil :
    nameOctets [] = [0] :=
  rfl

theorem nameOctets_cons
    (label : Label)
    (labels : List Label) :
    nameOctets (label :: labels) =
      UInt8.ofNat label.length :: (label ++ nameOctets labels) := by
  simp [nameOctets, labelOctets]

@[simp]
theorem length_nameOctets
    (labels : List Label) :
    (nameOctets labels).length = wireLength labels := by
  induction labels with
  | nil => rfl
  | cons label labels ih =>
      rw [nameOctets_cons, List.length_cons, List.length_append, ih]
      change label.length + wireLength labels + 1 = label.length + 1 + wireLength labels
      exact Nat.add_right_comm ..

/-- The name with the same labels that ends at the root. -/
def Name.rooted
    (name : Name) :
    Name :=
  { name with absolute := true }

namespace Wire

/-- The length octet of a label is neither the root label nor the start of a pointer. -/
theorem lengthOctet_of_sized
    {label : Label}
    (sized : 1 ≤ label.length ∧ label.length ≤ 63) :
    (UInt8.ofNat label.length).toNat = label.length ∧
      UInt8.ofNat label.length ≠ 0 ∧ UInt8.ofNat label.length < 64 := by
  have octet : (UInt8.ofNat label.length).toNat = label.length :=
    UInt8.toNat_ofNat_of_lt' (by simp only [UInt8.size]; omega)
  refine ⟨octet, ?_, ?_⟩
  · intro zero
    rw [zero] at octet
    have empty : 0 = label.length := octet
    omega
  · rw [UInt8.lt_iff_toNat_lt, octet]
    exact Nat.lt_succ_of_le sized.2

/--
The forms that the rest of a name part has at a position of a message, where the
part begins at `start`.  A pointer aims before that, at a part that is read before
`start`; what is read through a pointer begins before `bound`.
-/
inductive NameForm
    (message : Octets) :
    (start : Nat) → (bound : Option Nat) → (position : Nat) → Octets → List Label → Prop where
  | root
      {start position : Nat}
      {bound : Option Nat}
      (within : ∀ limit ∈ bound, position < limit) :
      NameForm message start bound position [0] []
  | label
      {start position : Nat}
      {bound : Option Nat}
      {label : Label}
      {octets : Octets}
      {labels : List Label}
      (within : ∀ limit ∈ bound, position < limit)
      (sized : 1 ≤ label.length ∧ label.length ≤ 63)
      (others : NameForm message start bound (position + 1 + label.length) octets labels) :
      NameForm message start bound position
        (UInt8.ofNat label.length :: (label ++ octets)) (label :: labels)
  | pointer
      {start position : Nat}
      {bound : Option Nat}
      {high low : UInt8}
      {octets rest : Octets}
      {labels : List Label}
      (within : ∀ limit ∈ bound, position < limit)
      (points : 192 ≤ high)
      (backward : (high.toNat - 192) * 256 + low.toNat < start)
      (there : message.drop ((high.toNat - 192) * 256 + low.toNat) = octets ++ rest)
      (part : NameForm message ((high.toNat - 192) * 256 + low.toNat) (some start)
        ((high.toNat - 192) * 256 + low.toNat) octets labels) :
      NameForm message start bound position [high, low] labels

theorem any_le_eq_false
    {bound : Option Nat}
    {position : Nat}
    (within : ∀ limit ∈ bound, position < limit) :
    bound.any (· ≤ position) = false := by
  cases bound with
  | none => rfl
  | some limit => exact decide_eq_false (Nat.not_le_of_lt (within limit rfl))

/-- Every form of a name part is read back. -/
theorem readLabels_of_form
    {message octets : Octets}
    {start position : Nat}
    {bound : Option Nat}
    {labels : List Label}
    (form : NameForm message start bound position octets labels)
    (before : List Label)
    (rest : Octets) :
    readLabels message start bound before ⟨position, octets ++ rest⟩ =
      .ok (before ++ labels, ⟨position + octets.length, rest⟩) := by
  induction form generalizing before rest with
  | root within =>
      rw [readLabels]
      simp [any_le_eq_false within]
  | @label start position bound label octets labels within sized _ ih =>
      rcases lengthOctet_of_sized sized with ⟨octet, notRoot, notPointer⟩
      have separated : Octets.splitExact? (UInt8.ofNat label.length).toNat
          (label ++ (octets ++ rest)) = some (label, octets ++ rest) := by
        rw [octet]
        exact Octets.splitExact?_append label _
      have remaining := ih (before ++ [label]) rest
      have further : position + 1 + label.length + octets.length =
          position + (UInt8.ofNat label.length :: (label ++ octets)).length := by
        rw [List.length_cons, List.length_append]
        omega
      rw [further, List.append_assoc, List.singleton_append] at remaining
      rw [readLabels, List.cons_append, List.append_assoc]
      simp only [any_le_eq_false within, Bool.false_eq_true, if_false, notRoot, notPointer,
        if_true, octet]
      split
      next absent => cases absent.symm.trans separated
      next found =>
        cases found.symm.trans separated
        exact remaining
  | @pointer start position bound high low octets behind labels within points backward there
      _ ih =>
      have large : 192 ≤ high.toNat := UInt8.le_iff_toNat_le.mp points
      have notRoot : high ≠ 0 := by
        rintro rfl
        exact absurd large (by decide)
      have notLabel : ¬high < 64 := by
        rw [UInt8.lt_iff_toNat_lt]
        exact Nat.not_lt_of_le (Nat.le_trans (by decide) large)
      have notReserved : ¬high < 192 := UInt8.not_lt.mpr points
      have found := ih before behind
      rw [← there] at found
      rw [readLabels]
      simp only [List.cons_append, List.nil_append, any_le_eq_false within, Bool.false_eq_true,
        if_false, notRoot, notLabel, notReserved, backward, if_true]
      exact bind_of_eq_ok found

theorem lt_of_any_le_ne_true
    {bound : Option Nat}
    {position : Nat}
    (free : ¬bound.any (· ≤ position) = true) :
    ∀ limit ∈ bound, position < limit := by
  rintro limit rfl
  exact Nat.lt_of_not_le (fun low => free (decide_eq_true low))

/-- What is read as the rest of a name part is one of its forms. -/
theorem exists_form_of_readLabels
    {message : Octets}
    {start : Nat}
    {bound : Option Nat}
    {before labels : List Label}
    {cursor next : Cursor}
    (read : readLabels message start bound before cursor = .ok (labels, next)) :
    ∃ octets others, labels = before ++ others ∧
      NameForm message start bound cursor.position octets others ∧
      cursor.rest = octets ++ next.rest ∧
      next.position = cursor.position + octets.length := by
  fun_induction readLabels message start bound before cursor generalizing labels next with
  | case3 start bound before cursor free rest here =>
      cases read
      exact ⟨[0], [], (List.append_nil _).symm, .root (lt_of_any_le_ne_true free), here, rfl⟩
  | case5 start bound before cursor free octet rest here notRoot isLabel label behind split ih =>
      rcases ih read with ⟨octets, others, rfl, form, back, further⟩
      have length := Octets.length_of_splitExact? split
      have whole := Octets.append_of_splitExact? split
      have counted : UInt8.ofNat label.length = octet := by
        rw [length, UInt8.ofNat_toNat]
      have sized : 1 ≤ label.length ∧ label.length ≤ 63 := by
        rw [length]
        have small : octet.toNat < 64 := UInt8.lt_iff_toNat_lt.mp isLabel
        have positive : octet.toNat ≠ 0 := fun zero => notRoot (UInt8.toNat_inj.mp zero)
        omega
      rw [← length] at form further
      refine ⟨_, _, List.append_assoc .., .label (lt_of_any_le_ne_true free) sized form, ?_, ?_⟩
      · change behind = octets ++ next.rest at back
        rw [here, whole, back, counted, List.cons_append, List.append_assoc]
      · rw [further, List.length_cons, List.length_append]
        dsimp only
        omega
  | case8 start bound before cursor free octet _ _ notReserved low behind here target backward _ =>
      rename_i ih
      rcases exists_of_bind_eq_ok read with ⟨⟨through, past⟩, readsPart, rest⟩
      cases rest
      rcases ih readsPart with ⟨octets, others, rfl, form, back, -⟩
      exact ⟨[octet, low], others, rfl, .pointer (lt_of_any_le_ne_true free)
        (UInt8.not_lt.mp notReserved) backward back form, here, rfl⟩
  | _ => cases read
/-- Without pointers, labels of admissible size stand in full. -/
theorem nameForm_nameOctets
    (message : Octets)
    (start position : Nat)
    {labels : List Label}
    (sized : ∀ label ∈ labels, 1 ≤ label.length ∧ label.length ≤ 63) :
    NameForm message start none position (nameOctets labels) labels := by
  have unbounded : ∀ position, ∀ limit ∈ (none : Option Nat), position < limit :=
    fun _ _ member => absurd member (Option.not_mem_none _)
  induction labels generalizing position with
  | nil => exact .root (unbounded position)
  | cons label labels ih =>
      rw [nameOctets_cons]
      exact .label (unbounded position) (sized label (List.mem_cons_self ..))
        (ih _ (fun other member => sized other (List.mem_cons_of_mem _ member)))

/-- A name in any of its forms is read back as a name that ends at the root. -/
theorem readName_of_form
    {message octets : Octets}
    {position : Nat}
    {name : Name}
    (form : NameForm message position none position octets name.labels)
    (rest : Octets) :
    readName message ⟨position, octets ++ rest⟩ =
      .ok (name.rooted, ⟨position + octets.length, rest⟩) := by
  have built : Name.ofLabels? name.labels true = some name.rooted :=
    name.rooted.ofLabels?_labels
  refine (bind_of_eq_ok (readLabels_of_form form [] rest)).trans ?_
  simp only [List.nil_append, built]
  rfl

/-- A name is read exactly where one of its forms stands. -/
theorem readName_eq_ok_iff
    {message : Octets}
    {cursor next : Cursor}
    {name : Name} :
    readName message cursor = .ok (name, next) ↔
      ∃ octets, NameForm message cursor.position none cursor.position octets name.labels ∧
        name.absolute = true ∧
        cursor.rest = octets ++ next.rest ∧
        next.position = cursor.position + octets.length := by
  constructor
  · intro read
    rcases exists_of_bind_eq_ok read with ⟨⟨labels, behind⟩, readsLabels, built⟩
    dsimp only at built
    split at built
    next found =>
      cases built
      rcases Name.labels_of_ofLabels? found with ⟨same, absolute⟩
      rcases exists_form_of_readLabels readsLabels with ⟨octets, others, rfl, form, rest, position⟩
      rw [← same] at form
      exact ⟨octets, form, absolute, rest, position⟩
    next => cases built
  · rintro ⟨octets, form, absolute, back, further⟩
    have rooted : name.rooted = name := by
      cases name
      cases absolute
      rfl
    rcases cursor with ⟨position, behind⟩
    rcases next with ⟨position', rest⟩
    dsimp only at form back further
    subst back further
    exact (readName_of_form form rest).trans (by rw [rooted])

end Wire

/-! ## Words -/

namespace Wire

theorem octet_cons
    (position : Nat)
    (octet : UInt8)
    (rest : Octets) :
    Cursor.octet ⟨position, octet :: rest⟩ = .ok (octet, ⟨position + 1, rest⟩) :=
  rfl

theorem word_ofUInt16
    (position : Nat)
    (word : UInt16)
    (rest : Octets) :
    Cursor.word ⟨position, Octets.ofUInt16 word ++ rest⟩ = .ok (word, ⟨position + 2, rest⟩) := by
  change Except.ok (Octets.toUInt16 _ _, _) = _
  rw [Octets.toUInt16_ofUInt16]
  rfl

theorem doubleWord_ofUInt32
    (position : Nat)
    (word : UInt32)
    (rest : Octets) :
    Cursor.doubleWord ⟨position, Octets.ofUInt32 word ++ rest⟩ =
      .ok (word, ⟨position + 4, rest⟩) := by
  change Except.ok (Octets.toUInt32 _ _, _) = _
  rw [Octets.toUInt32_ofUInt32]
  rfl

end Wire

/-! ## Questions and records -/

/-- The octets of a question behind its name. -/
def questionTail
    (question : Question) :
    Octets :=
  Octets.ofUInt16 question.type.code ++ Octets.ofUInt16 question.recordClass.code

@[simp]
theorem length_questionTail
    (question : Question) :
    (questionTail question).length = 4 :=
  rfl

/-- The octets of a question. -/
def questionOctets
    (question : Question) :
    Octets :=
  nameOctets question.name.labels ++ questionTail question

@[simp]
theorem length_questionOctets
    (question : Question) :
    (questionOctets question).length = wireLength question.name.labels + 4 := by
  simp [questionOctets]

/-- The question at the same name that ends at the root. -/
def Question.rooted
    (question : Question) :
    Question :=
  { question with name := question.name.rooted }

/-- The octets of a record behind its owner, with the given octets of data. -/
def recordTail
    (record : Record)
    (data : Octets) :
    Octets :=
  Octets.ofUInt16 record.type.code ++ (Octets.ofUInt16 record.recordClass.code ++
    (Octets.ofUInt32 record.lifetime ++ (Octets.ofUInt16 (UInt16.ofNat data.length) ++ data)))

@[simp]
theorem length_recordTail
    (record : Record)
    (data : Octets) :
    (recordTail record data).length = 10 + data.length := by
  simp only [recordTail, List.length_append, Octets.length_ofUInt16, Octets.length_ofUInt32]
  omega

/-- The octets of a record with the given octets of data. -/
def recordOctets
    (record : Record)
    (data : Octets) :
    Octets :=
  nameOctets record.owner.labels ++ recordTail record data

@[simp]
theorem length_recordOctets
    (record : Record)
    (data : Octets) :
    (recordOctets record data).length =
      wireLength record.owner.labels + 10 + data.length := by
  simp only [recordOctets, List.length_append, length_nameOctets, length_recordTail]
  omega

namespace Wire

/-- A question at a name in any of its forms is read back. -/
theorem readQuestion_of_form
    {message octets : Octets}
    {position : Nat}
    {question : Question}
    (form : NameForm message position none position octets question.name.labels)
    (rest : Octets) :
    readQuestion message ⟨position, octets ++ (questionTail question ++ rest)⟩ =
      .ok (question.rooted, ⟨position + octets.length + 4, rest⟩) := by
  rw [questionTail, List.append_assoc]
  refine (bind_of_eq_ok (readName_of_form form _)).trans ?_
  refine (bind_of_eq_ok (word_ofUInt16 _ question.type.code _)).trans ?_
  exact bind_of_eq_ok (word_ofUInt16 _ question.recordClass.code rest)

/-- An extension record as it is read with data: the datagram size is raised to the smallest one. -/
def extensionAsRead
    (record : Record)
    (data : RecordData) :
    Record where
  owner := Name.root
  recordClass := ⟨max record.recordClass.code minPayload⟩
  lifetime := record.lifetime
  data := data

theorem readClass_extension
    (position : Nat)
    (payload : UInt16)
    (rest : Octets) :
    readClass Name.root .opt ⟨position, Octets.ofUInt16 payload ++ rest⟩ =
      .ok (⟨max payload minPayload⟩, ⟨position + 2, rest⟩) :=
  bind_of_eq_ok (word_ofUInt16 position payload rest)

/--
An extension record at the root, in any of the forms of the root, is read if its data are,
and fails as they fail.
-/
theorem readRecord_of_form
    {message owner : Octets}
    {position : Nat}
    {record : Record}
    (form : NameForm message position none position owner [])
    (extension : record.type = .opt)
    {data : Octets}
    (short : data.length < 65536)
    (rest : Octets) :
    readRecord message ⟨position, owner ++ (recordTail record data ++ rest)⟩ =
      (readData message .opt data.length ⟨position + owner.length + 10, data ++ rest⟩).map
        (fun (read, next) => (extensionAsRead record read, next)) := by
  have length : (UInt16.ofNat data.length).toNat = data.length :=
    UInt16.toNat_ofNat_of_lt' short
  have enough : Cursor.has data.length ⟨position + owner.length + 10, data ++ rest⟩ = true := by
    simp [Cursor.has]
  have code : record.type.code = RecordType.opt.code := by
    rw [extension]
  have rooted : NameForm message position none position owner Name.root.labels := form
  rw [← length] at enough
  simp only [recordTail, List.append_assoc, code]
  refine (bind_of_eq_ok (readName_of_form rooted _)).trans ?_
  refine (bind_of_eq_ok (word_ofUInt16 _ RecordType.opt.code _)).trans ?_
  refine (bind_of_eq_ok (readClass_extension _ record.recordClass.code _)).trans ?_
  refine (bind_of_eq_ok (doubleWord_ofUInt32 _ record.lifetime _)).trans ?_
  refine (bind_of_eq_ok (word_ofUInt16 _ (UInt16.ofNat data.length) _)).trans ?_
  refine (if_pos enough).trans ?_
  rw [length]
  change readData message .opt data.length ⟨position + owner.length + 10, data ++ rest⟩ >>= _ = _
  cases readData message .opt data.length ⟨position + owner.length + 10, data ++ rest⟩ <;> rfl

end Wire

/-! ## Messages -/

namespace Message

open Wire

/--
A message whose other sections are read one after the other behind the header is read if its
additional records are.
-/
theorem decode_of_read
    {octets rest : Octets}
    {id questionCount answerCount authorityCount additionalCount : UInt16}
    {first second : UInt8}
    {questions : List Question}
    {answers authorities : List Record}
    {asked answered referred : Cursor}
    (header : octets = Octets.ofUInt16 id ++ first :: second ::
      (Octets.ofUInt16 questionCount ++ (Octets.ofUInt16 answerCount ++
        (Octets.ofUInt16 authorityCount ++ (Octets.ofUInt16 additionalCount ++ rest)))))
    (readsQuestions : readMany (readQuestion octets) questionCount.toNat []
      ⟨headerSize, rest⟩ = .ok (questions, asked))
    (readsAnswers : readMany (readRecord octets) answerCount.toNat [] asked =
      .ok (answers, answered))
    (readsAuthorities : readMany (readRecord octets) authorityCount.toNat [] answered =
      .ok (authorities, referred)) :
    decode octets = (do
      let (additionals, _) ← readMany (readRecord octets) additionalCount.toNat [] referred
      let (others, extension) ← takeExtension additionals
      return {
        header := completeHeader (headerOfFlags id first second) extension
        questions := questions
        answers := answers
        authorities := authorities
        additionals := others
        edns := extension.map ednsOfRecord }) := by
  have word : (Cursor.start octets).word = .ok (id, ⟨2, first :: second ::
      (Octets.ofUInt16 questionCount ++ (Octets.ofUInt16 answerCount ++
        (Octets.ofUInt16 authorityCount ++ (Octets.ofUInt16 additionalCount ++ rest))))⟩) := by
    rw [header]
    exact word_ofUInt16 0 id _
  refine (bind_of_eq_ok word).trans ?_
  refine (bind_of_eq_ok (octet_cons 2 first _)).trans ?_
  refine (bind_of_eq_ok (octet_cons 3 second _)).trans ?_
  refine (bind_of_eq_ok (word_ofUInt16 4 questionCount _)).trans ?_
  refine (bind_of_eq_ok (word_ofUInt16 6 answerCount _)).trans ?_
  refine (bind_of_eq_ok (word_ofUInt16 8 authorityCount _)).trans ?_
  refine (bind_of_eq_ok (word_ofUInt16 10 additionalCount rest)).trans ?_
  refine (bind_of_eq_ok readsQuestions).trans ?_
  refine (bind_of_eq_ok readsAnswers).trans ?_
  exact bind_of_eq_ok readsAuthorities

/-- The octets of a message that counts one question and one additional record. -/
def pairOctets
    (id : UInt16)
    (first second : UInt8)
    (asked extension : Octets) :
    Octets :=
  Octets.ofUInt16 id ++ first :: second ::
    (Octets.ofUInt16 1 ++ (Octets.ofUInt16 0 ++ (Octets.ofUInt16 0 ++ (Octets.ofUInt16 1 ++
      (asked ++ extension)))))

/--
A message with one question and an extension record, at names in any of their forms, is read
if the data of the record are, and fails as they fail.
-/
theorem decode_of_forms
    {id : UInt16}
    {first second : UInt8}
    {name owner data octets : Octets}
    {question : Question}
    {record : Record}
    (laid : octets = pairOctets id first second (name ++ questionTail question)
      (owner ++ recordTail record data))
    (named : NameForm octets headerSize none headerSize name question.name.labels)
    (atRoot : NameForm octets (headerSize + name.length + 4) none (headerSize + name.length + 4)
      owner [])
    (extension : record.type = .opt)
    (short : data.length < 65536)
    {result : Except Malformation RecordData}
    {next : Cursor}
    (readsData : readData octets .opt data.length
      ⟨headerSize + name.length + 4 + owner.length + 10, data⟩ = result.map (·, next))
    (ofType : ∀ read, result = .ok read → read.type = .opt) :
    decode octets = result.map (fun read => {
      header := completeHeader (headerOfFlags id first second) (some (extensionAsRead record read))
      questions := [question.rooted]
      edns := some (ednsOfRecord (extensionAsRead record read)) }) := by
  have readsQuestion := readQuestion_of_form named (owner ++ recordTail record data)
  have readsRecord := readRecord_of_form atRoot extension short []
  rw [List.append_nil, List.append_nil, readsData] at readsRecord
  rw [pairOctets, List.append_assoc] at laid
  refine (decode_of_read laid (bind_of_eq_ok readsQuestion) rfl rfl).trans ?_
  cases result with
  | error malformation =>
      change (readRecord octets _ >>= _) >>= _ = _
      rw [readsRecord]
      rfl
  | ok read =>
      have taken : takeExtension [extensionAsRead record read] =
          .ok ([], some (extensionAsRead record read)) := by
        simp [takeExtension, Record.type, extensionAsRead, ofType read rfl]
      have readsOne : readMany (readRecord octets) 1 []
          ⟨headerSize + name.length + 4, owner ++ recordTail record data⟩ =
            .ok ([extensionAsRead record read], next) :=
        bind_of_eq_ok readsRecord
      exact (bind_of_eq_ok readsOne).trans (bind_of_eq_ok taken)

/-- The octets of a message with one question and an extension record with the given data. -/
def extendedOctets
    (id : UInt16)
    (first second : UInt8)
    (question : Question)
    (record : Record)
    (data : Octets) :
    Octets :=
  pairOctets id first second (questionOctets question) (recordOctets record data)

/-- A message with one question and an extension record is read if the data of the record are. -/
theorem decode_extendedOctets
    (id : UInt16)
    (first second : UInt8)
    (question : Question)
    (record : Record)
    (data : Octets)
    (atRoot : record.owner = Name.root)
    (extension : record.type = .opt)
    (short : data.length < 65536)
    {read : RecordData}
    {next : Cursor}
    (readsData : readData (extendedOctets id first second question record data) .opt data.length
      ⟨headerSize + (questionOctets question).length + 11, data⟩ = .ok (read, next))
    (ofType : read.type = .opt) :
    decode (extendedOctets id first second question record data) =
      .ok {
        header :=
          completeHeader (headerOfFlags id first second) (some (extensionAsRead record read))
        questions := [question.rooted]
        edns := some (ednsOfRecord (extensionAsRead record read)) } := by
  rcases record with ⟨owner, recordClass, lifetime, contents⟩
  subst atRoot
  have named := nameForm_nameOctets
    (extendedOctets id first second question ⟨Name.root, recordClass, lifetime, contents⟩ data)
    headerSize headerSize question.name.labels_sized
  have rooted := nameForm_nameOctets
    (extendedOctets id first second question ⟨Name.root, recordClass, lifetime, contents⟩ data)
    (headerSize + (nameOctets question.name.labels).length + 4)
    (headerSize + (nameOctets question.name.labels).length + 4) Name.root.labels_sized
  rw [length_questionOctets, ← length_nameOctets] at readsData
  let result : Except Malformation RecordData := .ok read
  change readData _ _ _ _ = result.map (·, next) at readsData
  exact decode_of_forms rfl named rooted extension short readsData
    (fun _ same => Except.ok.inj same ▸ ofType)

end Message

end DnsOverQuic.Dns
