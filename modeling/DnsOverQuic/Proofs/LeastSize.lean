import DnsOverQuic.Gateway.Handler
import DnsOverQuic.Proofs.MessageSize
import DnsOverQuic.Proofs.WireWriting
import Mathlib.Data.List.Basic

/-!
# The least size of a message

Every question takes at least five octets of a message and every record at least eleven,
whichever form their names have.  A reader that succeeds takes as many, so a message has
room for all that is read from it, and its header cannot promise what is not there.  A
sequence of writes adds as many, although a name may take back its own labels to point to
earlier ones.  So octets that are shorter than a header and a root question ask nothing,
and what asks something is never written shorter.
-/

namespace DnsOverQuic.Dns

/-! ## What readers take -/

namespace Wire

/-- A reader takes at least a number of octets whenever it succeeds. -/
def Takes
    {α : Type}
    (count : Nat)
    (read : Cursor → Except Malformation (α × Cursor)) : Prop :=
  ∀ cursor next item,
    read cursor = .ok (item, next) → next.rest.length + count ≤ cursor.rest.length

section Takes

variable
    {α β : Type}
    {read read' : Cursor → Except Malformation (α × Cursor)}

theorem takes_pure
    (item : α) :
    Takes 0 (fun cursor => pure (item, cursor)) := by
  intro cursor next found read
  cases read
  exact Nat.le_refl _

theorem takes_error
    (count : Nat)
    (malformation : Malformation) :
    Takes count (fun _ => (.error malformation : Except Malformation (α × Cursor))) := by
  intro cursor next item read
  cases read

/-- Readers one after the other take what each of them takes. -/
theorem Takes.bind
    {first second : Nat}
    {next : α × Cursor → Except Malformation (β × Cursor)}
    (before : Takes first read)
    (behind : ∀ item, Takes second (fun cursor => next (item, cursor))) :
    Takes (second + first) (fun cursor => read cursor >>= next) := by
  intro cursor last item succeeded
  rcases exists_of_bind_eq_ok succeeded with ⟨⟨found, between⟩, reads, rest⟩
  have taken := before _ _ _ reads
  have taken' := behind _ _ _ _ rest
  omega

/-- A computation that does not read takes nothing. -/
theorem takes_computed
    {γ : Type}
    {count : Nat}
    {computation : Except Malformation γ}
    {next : γ → Cursor → Except Malformation (α × Cursor)}
    (behind : ∀ value, Takes count (next value)) :
    Takes count (fun cursor => computation >>= fun value => next value cursor) := by
  intro cursor last item succeeded
  rcases exists_of_bind_eq_ok succeeded with ⟨value, -, rest⟩
  exact behind value _ _ _ rest

theorem Takes.ite
    {count : Nat}
    {condition : Prop}
    [Decidable condition]
    (holds : condition → Takes count read)
    (fails : ¬condition → Takes count read') :
    Takes count (fun cursor => if condition then read cursor else read' cursor) := by
  by_cases decided : condition
  · simpa only [if_pos decided] using holds decided
  · simpa only [if_neg decided] using fails decided

theorem Takes.congr
    {count : Nat}
    (takes : Takes count read')
    (same : ∀ cursor, read cursor = read' cursor) :
    Takes count read := by
  intro cursor next item succeeded
  exact takes cursor next item ((same cursor).symm.trans succeeded)

/-- A reader that takes something takes less too. -/
theorem Takes.mono
    {count count' : Nat}
    (takes : Takes count read)
    (fewer : count' ≤ count) :
    Takes count' read := by
  intro cursor next item succeeded
  have taken := takes cursor next item succeeded
  omega

/-- Readers that do not go back do not go back one after the other. -/
theorem Takes.forwards
    {first : Nat}
    {next : α × Cursor → Except Malformation (β × Cursor)}
    (before : Takes first read)
    (behind : ∀ item, Takes 0 (fun cursor => next (item, cursor))) :
    Takes 0 (fun cursor => read cursor >>= next) :=
  (before.bind behind).mono (Nat.zero_le _)

end Takes

theorem takes_octet :
    Takes 1 Cursor.octet := by
  intro cursor next octet read
  unfold Cursor.octet at read
  split at read
  next rest here =>
    cases read
    exact Nat.le_of_eq (congrArg List.length here).symm
  next => cases read

theorem takes_word :
    Takes 2 Cursor.word := by
  intro cursor next word read
  rw [Cursor.rest_of_word read, List.length_append, Octets.length_ofUInt16]
  omega

theorem takes_doubleWord :
    Takes 4 Cursor.doubleWord :=
  takes_word.bind (fun _ => takes_word.bind (fun _ => takes_pure _))

theorem takes_take
    (count : Nat) :
    Takes count (Cursor.take count) := by
  intro cursor next octets read
  unfold Cursor.take at read
  split at read
  next front back split =>
    cases read
    have length := Octets.length_of_splitExact? split
    have whole := congrArg List.length (Octets.append_of_splitExact? split)
    rw [List.length_append] at whole
    dsimp only
    omega
  next => cases read

/-- Every form of a name has octets: the root label, a label or a pointer. -/
theorem NameForm.length_pos
    {message octets : Octets}
    {start position : Nat}
    {bound : Option Nat}
    {labels : List Label}
    (form : NameForm message start bound position octets labels) :
    0 < octets.length := by
  cases form <;> exact Nat.succ_pos _

theorem takes_readName
    (message : Octets) :
    Takes 1 (readName message) := by
  intro cursor next name read
  rcases readName_eq_ok_iff.mp read with ⟨octets, form, -, rest, -⟩
  have positive := form.length_pos
  rw [rest, List.length_append]
  omega

theorem takes_readQuestion
    (message : Octets) :
    Takes 5 (readQuestion message) :=
  (takes_readName message).bind
    (fun _ => takes_word.bind (fun _ => takes_word.bind (fun _ => takes_pure _)))

/-! ### Data of records -/

theorem takes_readCharacterString :
    Takes 0 readCharacterString := by
  refine takes_octet.forwards (fun count => (takes_take _).forwards (fun octets => ?_))
  dsimp only
  cases CharacterString.ofOctets? octets with
  | none => exact takes_error 0 _
  | some counted => exact takes_pure counted

theorem takes_readCharacterStrings
    (length : Nat) :
    Takes 0 (readCharacterStrings length) := by
  induction length using Nat.strongRecOn with
  | ind length ih =>
      refine .congr ?_ (fun cursor => by rw [readCharacterStrings])
      refine .ite (fun _ => takes_pure _) (fun some => ?_)
      refine takes_readCharacterString.forwards (fun counted => ?_)
      refine .ite (fun _ => ?_) (fun _ => takes_error 0 _)
      exact (ih _ (by omega)).forwards (fun _ => takes_pure _)

theorem takes_readOptions
    (total remaining : Nat)
    (options : List EdnsOption) :
    Takes 0 (readOptions total remaining options) := by
  induction remaining using Nat.strongRecOn generalizing options with
  | ind remaining ih =>
      refine .congr ?_ (fun cursor => by rw [readOptions])
      refine .ite (fun _ => takes_pure _) (fun some => ?_)
      refine takes_word.forwards (fun code => ?_)
      refine .ite (fun _ => takes_error 0 _) (fun _ => .ite (fun _ => takes_pure _) (fun _ => ?_))
      refine takes_word.forwards (fun length => ?_)
      refine .ite (fun _ => takes_error 0 _)
        (fun _ => .ite (fun _ => takes_error 0 _) (fun _ => ?_))
      refine .ite (fun _ => (takes_take _).forwards (fun _ => takes_pure _)) (fun _ => ?_)
      refine (takes_take _).forwards (fun data => takes_computed (fun option => ?_))
      exact ih _ (by omega) _

theorem takes_readIPv4 :
    Takes 0 readIPv4 :=
  takes_octet.forwards (fun _ => takes_octet.forwards (fun _ =>
    takes_octet.forwards (fun _ => takes_octet.forwards (fun _ => takes_pure _))))

theorem takes_readWords
    (count : Nat) :
    Takes 0 (readWords count) := by
  induction count with
  | zero => exact takes_pure []
  | succ count ih => exact takes_word.forwards (fun _ => ih.forwards (fun _ => takes_pure _))

theorem takes_readIPv6 :
    Takes 0 readIPv6 := by
  refine (takes_readWords 8).forwards (fun groups => ?_)
  dsimp only
  cases IPv6.ofGroups? groups with
  | none => exact takes_error 0 _
  | some address => exact takes_pure address

theorem takes_readStartOfAuthority
    (message : Octets) :
    Takes 0 (readStartOfAuthority message) :=
  (takes_readName message).forwards (fun _ => (takes_readName message).forwards (fun _ =>
    takes_doubleWord.forwards (fun _ => takes_doubleWord.forwards (fun _ =>
      takes_doubleWord.forwards (fun _ => takes_doubleWord.forwards (fun _ =>
        takes_doubleWord.forwards (fun _ => takes_pure _)))))))

theorem takes_readServiceLocation
    (message : Octets) :
    Takes 0 (readServiceLocation message) :=
  takes_word.forwards (fun _ => takes_word.forwards (fun _ => takes_word.forwards (fun _ =>
    (takes_readName message).forwards (fun _ => takes_pure _))))

theorem takes_readRewriting
    (message : Octets) :
    Takes 0 (readRewriting message) := by
  refine takes_word.forwards (fun order => takes_word.forwards (fun preference => ?_))
  refine takes_readCharacterString.forwards (fun flags => ?_)
  dsimp only
  cases RewritingFlags.ofString? flags with
  | none => exact takes_error 0 _
  | some flags =>
      refine takes_readCharacterString.forwards (fun services => ?_)
      dsimp only
      refine takes_readCharacterString.forwards (fun pattern => ?_)
      dsimp only
      exact (takes_readName message).forwards (fun replacement =>
        takes_pure
          (RecordData.naptr order preference flags services pattern replacement))

theorem takes_readServiceBinding
    (message : Octets)
    (type : RecordType)
    (length : Nat) :
    Takes 0 (readServiceBinding message type length) := by
  -- How much is left for the parameters depends on where the binding begins.
  intro cursor next binding read
  rcases exists_of_bind_eq_ok read with ⟨⟨priority, behindPriority⟩, reads, read⟩
  have inPriority := takes_word _ _ _ reads
  rcases exists_of_bind_eq_ok read with ⟨⟨target, behindTarget⟩, reads, read⟩
  have inTarget := takes_readName message _ _ _ reads
  dsimp only at read
  split at read
  next => cases read
  next =>
    rcases exists_of_bind_eq_ok read with ⟨⟨octets, behindParameters⟩, reads, read⟩
    have inParameters := takes_take _ _ _ _ reads
    dsimp only at read
    split at read
    next =>
      cases read
      omega
    next => cases read

theorem takes_readDataOfType
    (message : Octets)
    (type : RecordType)
    (length : Nat) :
    Takes 0 (readDataOfType message type length) := by
  have named
      (make : Name → RecordData) :
      Takes 0 (fun cursor => readName message cursor >>= fun found =>
        pure (make found.1, found.2)) :=
    (takes_readName message).forwards (fun name => takes_pure (make name))
  unfold readDataOfType
  refine .ite (fun _ => takes_readIPv4.forwards (fun _ => takes_pure _)) (fun _ => ?_)
  refine .ite (fun _ => takes_readIPv6.forwards (fun _ => takes_pure _)) (fun _ => ?_)
  refine .ite (fun _ => named .ns) (fun _ => ?_)
  refine .ite (fun _ => named .cname) (fun _ => ?_)
  refine .ite (fun _ => named .ptr) (fun _ => ?_)
  refine .ite (fun _ => named .aname) (fun _ => ?_)
  refine .ite (fun _ => takes_word.forwards (fun preference => named (.mx preference)))
    (fun _ => ?_)
  refine .ite (fun _ => takes_readStartOfAuthority message) (fun _ => ?_)
  refine .ite (fun _ => takes_readServiceLocation message) (fun _ => ?_)
  refine .ite (fun _ => (takes_readCharacterStrings length).forwards (fun _ => takes_pure _))
    (fun _ => ?_)
  refine .ite (fun _ => takes_readCharacterString.forwards (fun _ =>
    takes_readCharacterString.forwards (fun _ => takes_pure _))) (fun _ => ?_)
  refine .ite (fun _ => (takes_readOptions length length []).forwards (fun _ => takes_pure _))
    (fun _ => ?_)
  refine .ite (fun _ => takes_error 0 _) (fun _ => ?_)
  refine .ite (fun _ => takes_readRewriting message) (fun _ => ?_)
  refine .ite (fun _ => (takes_readServiceBinding message type length).forwards
    (fun _ => takes_pure _)) (fun _ => ?_)
  refine .ite (fun _ => (takes_readServiceBinding message type length).forwards
    (fun _ => takes_pure _)) (fun _ => ?_)
  refine (takes_take length).forwards (fun octets => ?_)
  dsimp only
  cases dataOfOctets? type octets with
  | none => exact takes_error 0 _
  | some data => exact takes_pure data

/-! ### Records and sections -/

theorem takes_readData
    (message : Octets)
    (type : RecordType)
    (length : Nat) :
    Takes 0 (readData message type length) := by
  intro cursor next data read
  unfold readData at read
  split at read
  next =>
    cases read
    exact Nat.le_refl _
  next =>
    rcases exists_of_bind_eq_ok read with ⟨⟨found, last⟩, reads, read⟩
    have taken := takes_readDataOfType message type length _ _ _ reads
    dsimp only at read
    split at read
    next =>
      cases read
      exact taken
    next => cases read

theorem takes_readClass
    (owner : Name)
    (type : RecordType) :
    Takes 2 (readClass owner type) := by
  unfold readClass
  refine .ite (fun _ => ?_) (fun _ => takes_word.bind (fun _ => takes_pure _))
  exact .ite (fun _ => takes_word.bind (fun _ => takes_pure _)) (fun _ => takes_error 2 _)

theorem takes_readRecord
    (message : Octets) :
    Takes 11 (readRecord message) := by
  refine (takes_readName message).bind (fun owner => ?_)
  refine takes_word.bind (fun code => ?_)
  refine (takes_readClass owner ⟨code⟩).bind (fun recordClass => ?_)
  refine takes_doubleWord.bind (fun lifetime => ?_)
  refine takes_word.bind (fun length => ?_)
  have data : Takes 0 (fun cursor => readData message ⟨code⟩ length.toNat cursor >>= fun found =>
      pure (Record.mk owner recordClass lifetime found.1, found.2)) :=
    (takes_readData message ⟨code⟩ length.toNat).forwards
      (fun data => takes_pure (Record.mk owner recordClass lifetime data))
  -- Whether the data are read depends on what is left, and not only on what was read.
  intro cursor next record read
  dsimp only at read
  split at read
  next => exact data cursor next record read
  next => cases read

/-- What is counted is read, and each item takes its octets. -/
theorem of_readMany
    {α : Type}
    {least : Nat}
    {read : Cursor → Except Malformation (α × Cursor)}
    (each : Takes least read)
    {count : Nat}
    {before items : List α}
    {cursor next : Cursor}
    (reads : readMany read count before cursor = .ok (items, next)) :
    items.length = before.length + count ∧
      next.rest.length + least * count ≤ cursor.rest.length := by
  induction count generalizing before cursor with
  | zero =>
      cases reads
      simp
  | succ count ih =>
      rcases exists_of_bind_eq_ok reads with ⟨⟨item, behind⟩, first, others⟩
      have taken := each _ _ _ first
      rcases ih others with ⟨number, taken'⟩
      rw [List.length_cons] at number
      rw [Nat.mul_succ]
      omega

theorem length_of_takeExtension
    {records others : List Record}
    {extension : Option Record}
    (taken : takeExtension records = .ok (others, extension)) :
    others.length + extension.toList.length = records.length := by
  have apart : records.length =
      (records.filter (fun record => decide (record.type = .opt))).length +
        (records.filter (fun record => !decide (record.type = .opt))).length :=
    List.length_eq_length_filter_add _
  unfold takeExtension at taken
  simp only [ne_eq, decide_not] at taken
  split at taken
  next none =>
    cases taken
    rw [none] at apart
    simpa using apart.symm
  next record one =>
    cases taken
    rw [one] at apart
    rw [apart, Nat.add_comm]
    rfl
  next => cases taken

end Wire

/-- The octets that a message takes at least. -/
def Message.leastSize
    (message : Message) :
    Nat :=
  Wire.headerSize + 5 * message.questions.length +
    11 * (message.answers.length + message.authorities.length +
      (message.additionals.length + message.edns.toList.length))

open Wire in
/-- Octets have room for the message that is read from them. -/
theorem Message.leastSize_le_of_decode
    {octets : Octets}
    {message : Message}
    (decoded : decode octets = .ok message) :
    message.leastSize ≤ octets.length := by
  rcases exists_of_bind_eq_ok decoded with ⟨⟨id, behindId⟩, reads, decoded⟩
  have inId := takes_word _ _ _ reads
  rcases exists_of_bind_eq_ok decoded with ⟨⟨first, behindFirst⟩, reads, decoded⟩
  have inFirst := takes_octet _ _ _ reads
  rcases exists_of_bind_eq_ok decoded with ⟨⟨second, behindSecond⟩, reads, decoded⟩
  have inSecond := takes_octet _ _ _ reads
  rcases exists_of_bind_eq_ok decoded with ⟨⟨questionCount, counted⟩, reads, decoded⟩
  have inQuestionCount := takes_word _ _ _ reads
  rcases exists_of_bind_eq_ok decoded with ⟨⟨answerCount, counted'⟩, reads, decoded⟩
  have inAnswerCount := takes_word _ _ _ reads
  rcases exists_of_bind_eq_ok decoded with ⟨⟨authorityCount, counted''⟩, reads, decoded⟩
  have inAuthorityCount := takes_word _ _ _ reads
  rcases exists_of_bind_eq_ok decoded with ⟨⟨additionalCount, behindHeader⟩, reads, decoded⟩
  have inAdditionalCount := takes_word _ _ _ reads
  rcases exists_of_bind_eq_ok decoded with ⟨⟨questions, asked⟩, reads, decoded⟩
  have inQuestions := of_readMany (takes_readQuestion octets) reads
  rcases exists_of_bind_eq_ok decoded with ⟨⟨answers, answered⟩, reads, decoded⟩
  have inAnswers := of_readMany (takes_readRecord octets) reads
  rcases exists_of_bind_eq_ok decoded with ⟨⟨authorities, referred⟩, reads, decoded⟩
  have inAuthorities := of_readMany (takes_readRecord octets) reads
  rcases exists_of_bind_eq_ok decoded with ⟨⟨additionals, last⟩, reads, decoded⟩
  have inAdditionals := of_readMany (takes_readRecord octets) reads
  rcases exists_of_bind_eq_ok decoded with ⟨⟨others, extension⟩, taken, decoded⟩
  have parted := length_of_takeExtension taken
  cases decoded
  have extended : (extension.map ednsOfRecord).toList.length = extension.toList.length := by
    cases extension <;> rfl
  change _ ≤ octets.length at inId
  simp only [List.length_nil, Nat.zero_add] at inQuestions inAnswers inAuthorities inAdditionals
  simp only [leastSize, headerSize, extended]
  omega

/-! ## What writes add -/

namespace Wire

/--
From an output on, a sequence of writes comes to a number of octets behind a position, and
if it is refused, at least to the position.
-/
def AdvancesFrom
    {α : Type}
    (start count : Nat)
    (write : Writer α)
    (output : Output) : Prop :=
  match write output with
  | .ok _ next => start + count ≤ next.position
  | .error _ next => start ≤ next.position

/-- A sequence of writes adds at least a number of octets. -/
def Advances
    {α : Type}
    (count : Nat)
    (write : Writer α) : Prop :=
  ∀ start output, start ≤ output.position → AdvancesFrom start count write output

section Advances

variable
    {α β : Type}
    {start first second : Nat}
    {write : Writer α}
    {next : α → Writer β}
    {output : Output}

theorem AdvancesFrom.of_eq
    {write' : Writer α}
    {output' : Output}
    (advances : AdvancesFrom start first write' output')
    (same : write output = write' output') :
    AdvancesFrom start first write output := by
  unfold AdvancesFrom
  rw [same]
  exact advances

theorem AdvancesFrom.mono
    (advances : AdvancesFrom start first write output)
    (fewer : second ≤ first) :
    AdvancesFrom start second write output := by
  unfold AdvancesFrom at advances ⊢
  split
  next written =>
    rw [written] at advances
    exact Nat.le_trans (Nat.add_le_add_left fewer start) advances
  next written =>
    rw [written] at advances
    exact advances

/-- Writes one after the other add what each of them adds. -/
theorem AdvancesFrom.bind
    (before : AdvancesFrom start first write output)
    (behind : ∀ answer between, start + first ≤ between.position →
      AdvancesFrom (start + first) second (next answer) between) :
    AdvancesFrom start (second + first) (write >>= next) output := by
  unfold AdvancesFrom at before ⊢
  change match EStateM.bind write next output with
    | .ok _ last => start + (second + first) ≤ last.position
    | .error _ last => start ≤ last.position
  unfold EStateM.bind
  cases written : write output with
  | error overflow between =>
      rw [written] at before
      exact before
  | ok answer between =>
      rw [written] at before
      have rest := behind answer between before
      unfold AdvancesFrom at rest
      dsimp only
      split at rest
      next => exact Nat.le_trans (by omega) rest
      next => exact Nat.le_of_add_right_le rest

theorem advances_pure
    (answer : α) :
    Advances 0 (pure answer) :=
  fun _ _ began => began

theorem Advances.bind
    (before : Advances first write)
    (behind : ∀ answer, Advances second (next answer)) :
    Advances (second + first) (write >>= next) :=
  fun start output began =>
    (before start output began).bind (fun answer between => behind answer (start + first) between)

/-- What adds something does not go back. -/
theorem Advances.forwards
    (advances : Advances first write) :
    Advances 0 write :=
  fun start output began => (advances start output began).mono (Nat.zero_le first)

/-- Writes that do not go back do not go back one after the other. -/
theorem Advances.then
    (before : Advances 0 write)
    (behind : ∀ answer, Advances 0 (next answer)) :
    Advances 0 (write >>= next) :=
  before.bind behind

theorem advances_forM
    {each : α → Writer Unit}
    (advances : ∀ item, Advances first (each item))
    (items : List α) :
    Advances (first * items.length) (items.forM each) := by
  induction items with
  | nil => exact advances_pure ()
  | cons item items ih => exact (advances item).bind (fun _ => ih)

end Advances

theorem advances_put
    (octets : Octets) :
    Advances octets.length (put octets) := by
  intro start output began
  by_cases room : output.position + octets.length ≤ Protocol.maxMessageSize
  · simp only [AdvancesFrom, run_put room, Output.position_extend]
    omega
  · simpa only [AdvancesFrom, put, if_neg room] using began

theorem position_rewind
    {start offset : Nat}
    {output : Output}
    (began : start ≤ output.position)
    (within : start ≤ offset) :
    start ≤ (output.rewind offset).position := by
  simp only [Output.rewind, Output.position, Array.size_shrink] at began ⊢
  omega

/-- The end of a name adds an octet, even where labels are taken back for a pointer. -/
theorem advancesFrom_closeName
    (pointing : Bool)
    (past : Nat)
    {start : Nat}
    {ends : List (List Label × Nat)}
    (within : ∀ entry ∈ ends, start ≤ entry.2)
    (output : Output)
    (began : start ≤ output.position) :
    AdvancesFrom start 1 (closeName pointing past ends) output := by
  induction ends generalizing output with
  | nil => exact advances_put [0] start output began
  | cons first ends ih =>
      rcases first with ⟨labels, offset⟩
      have here : start ≤ offset := within (labels, offset) List.mem_cons_self
      have others : ∀ entry ∈ ends, start ≤ entry.2 :=
        fun entry member => within entry (List.mem_cons_of_mem _ member)
      have known : (get : Writer Output) output = .ok output output := rfl
      refine .of_eq ?_ (run_bind_of_ok known)
      cases output.targets.lookup labels with
      | some target =>
          cases pointing with
          | true =>
              have points := advances_put (pointerOctets target) start (output.rewind offset)
                (position_rewind began here)
              exact points.mono (Nat.le_succ 1)
          | false => exact ih others output began
      | none =>
          by_cases reachable : past < pointerReach
          · simp only [if_pos reachable]
            exact ih others (output.remember labels offset) began
          · simp only [if_neg reachable]
            exact ih others output began

theorem le_of_mem_labelEnds
    {offset : Nat}
    {labels : List Label}
    {entry : List Label × Nat}
    (member : entry ∈ labelEnds offset labels) :
    offset ≤ entry.2 := by
  induction labels generalizing offset with
  | nil => cases member
  | cons label labels ih =>
      rcases List.mem_cons.mp member with rfl | behind
      · exact Nat.le_refl _
      · have further := ih behind
        omega

theorem advances_putCounted
    (octets : Octets) :
    Advances 0 (putCounted octets) :=
  (advances_put _).forwards.then (fun _ => (advances_put octets).forwards)

theorem advances_putLabels
    (pointing : Bool)
    (labels : List Label) :
    Advances 1 (putLabels pointing labels) := by
  intro start output began
  have known : (get : Writer Output) output = .ok output output := rfl
  refine .of_eq ?_ (run_bind_of_ok known)
  have counted := advances_forM advances_putCounted labels start output began
  refine (counted.mono (Nat.zero_le _)).bind (fun _ between reached => ?_)
  have known' : (get : Writer Output) between = .ok between between := rfl
  refine .of_eq ?_ (run_bind_of_ok known')
  exact advancesFrom_closeName pointing between.position
    (fun entry member => Nat.le_trans began (le_of_mem_labelEnds member)) between reached

theorem advances_putWord
    (word : UInt16) :
    Advances 2 (putWord word) :=
  advances_put _

theorem advances_putQuestion
    (question : Question) :
    Advances 5 (putQuestion question) :=
  (advances_putLabels true _).bind
    (fun _ => (advances_putWord _).bind (fun _ => advances_putWord _))

theorem advances_putDoubleWord
    (word : UInt32) :
    Advances 4 (putDoubleWord word) :=
  advances_put _

theorem advances_putEach
    (octets : Octets) :
    Advances 0 (putEach octets) :=
  (advances_forM (fun octet => advances_put [octet]) octets).forwards

theorem advances_putOption
    (option : EdnsOption) :
    Advances 0 (putOption option) :=
  (advances_putWord _).forwards.then (fun _ =>
    (advances_putWord _).forwards.then (fun _ => advances_putEach _))

theorem advances_putParameter
    (parameter : ServiceParameter) :
    Advances 0 (putParameter parameter) :=
  (advances_putWord _).forwards.then (fun _ =>
    (advances_putWord _).forwards.then (fun _ => advances_putEach _))

theorem advances_putServiceBinding
    (binding : ServiceBinding) :
    Advances 0 (putServiceBinding binding) :=
  (advances_putWord _).forwards.then (fun _ =>
    (advances_putLabels false _).forwards.then (fun _ =>
      (advances_forM advances_putParameter binding.parameters).forwards))

theorem advances_putData
    (data : RecordData) :
    Advances 0 (putData data) := by
  have labels
      (pointing : Bool)
      (labels : List Label) :
      Advances 0 (putLabels pointing labels) :=
    (advances_putLabels pointing labels).forwards
  have word
      (word : UInt16) :
      Advances 0 (putWord word) :=
    (advances_putWord word).forwards
  have doubleWord
      (word : UInt32) :
      Advances 0 (putDoubleWord word) :=
    (advances_putDoubleWord word).forwards
  cases data with
  | absent type => exact advances_pure ()
  | a address => exact advances_putEach _
  | aaaa address => exact (advances_forM advances_putWord _).forwards
  | ns server => exact labels true _
  | cname target => exact labels true _
  | ptr target => exact labels true _
  | aname target => exact labels false _
  | mx preference exchange => exact (word _).then (fun _ => labels true _)
  | soa primary mailbox serial refresh retry expire minimum =>
      refine (labels true _).then (fun _ => (labels true _).then (fun _ => ?_))
      refine (doubleWord _).then (fun _ => (doubleWord _).then (fun _ => ?_))
      exact (doubleWord _).then (fun _ => (doubleWord _).then (fun _ => doubleWord _))
  | srv priority weight portNumber target =>
      refine (word _).then (fun _ => (word _).then (fun _ => ?_))
      exact (word _).then (fun _ => labels false _)
  | txt strings => exact (advances_forM (fun counted => advances_putCounted _) strings).forwards
  | hinfo processor system =>
      exact (advances_putCounted _).then (fun _ => advances_putCounted _)
  | opt options => exact (advances_forM advances_putOption options).forwards
  | naptr order preference flags services pattern replacement =>
      refine (word _).then (fun _ => (word _).then (fun _ => ?_))
      refine (advances_putCounted _).then (fun _ => (advances_putCounted _).then (fun _ => ?_))
      exact (advances_putCounted _).then (fun _ => labels false _)
  | caa flags tag property =>
      exact (advances_putEach _).then (fun _ =>
        (advances_putCounted _).then (fun _ => advances_putEach property))
  | cert kind keyTag algorithm certificate =>
      exact (word _).then (fun _ => (word _).then (fun _ => advances_putEach _))
  | sshfp algorithm kind fingerprint => exact advances_putEach _
  | tlsa usage selector matching association => exact advances_putEach _
  | csync serial flags bitMap =>
      exact (doubleWord _).then (fun _ => (word _).then (fun _ => advances_putEach _))
  | svcb binding => exact advances_putServiceBinding binding
  | https binding => exact advances_putServiceBinding binding
  | uninterpreted type octets => exact advances_putEach octets

/-- Entering the length of data in its place moves nothing. -/
theorem advances_closeLength
    (offset : Nat) :
    Advances 0 (modify (Output.closeLength offset)) := by
  intro start output began
  change start ≤ (output.closeLength offset).position
  simpa only [Output.closeLength, Output.position, Array.size_setIfInBounds] using began

theorem advances_putRecord
    (record : Record) :
    Advances 11 (putRecord record) := by
  refine (advances_putLabels true _).bind (fun _ => ?_)
  refine (advances_putWord _).bind (fun _ => (advances_putWord _).bind (fun _ => ?_))
  refine (advances_putDoubleWord _).bind (fun _ => ?_)
  intro start output began
  have known : (get : Writer Output) output = .ok output output := rfl
  refine .of_eq ?_ (run_bind_of_ok known)
  have counted : Advances 2 (do
      putWord 0
      putData record.data
      modify (Output.closeLength output.position)) :=
    (advances_putWord 0).bind (fun _ =>
      (advances_putData _).then (fun _ => advances_closeLength _))
  exact counted start output began

/-- A section adds the octets of the records that it counts, cut short or not. -/
theorem position_writeSection
    (count : Nat)
    (records : List Record)
    (output : Output) :
    output.position + 11 * (writeSection count records output).1.records ≤
      (writeSection count records output).2.position + 11 * count := by
  induction records generalizing count output with
  | nil => exact Nat.le_refl _
  | cons record records ih =>
      have written := advances_putRecord record output.position output (Nat.le_refl _)
      unfold AdvancesFrom at written
      rw [writeSection]
      cases put : putRecord record output with
      | ok answer next =>
          rw [put] at written
          have rest := ih (count + 1) next
          dsimp only at written rest ⊢
          omega
      | error overflow next =>
          rw [put] at written
          dsimp only at written ⊢
          simp only [Output.abandon, Output.position, Array.size_shrink, headerSize] at written ⊢
          omega

end Wire

namespace Message

open Wire

/-- The body of a message has room for its questions and for the records that are counted. -/
theorem leastSize_le_of_body?
    {message : Message}
    {body : Body}
    (written : message.body? = some body) :
    5 * message.questions.length +
        11 * (body.counts.answers + body.counts.authorities + body.counts.additionals) ≤
      body.octets.length := by
  unfold body? at written
  have asked := advances_forM advances_putQuestion message.questions headerSize {}
    (Nat.le_refl headerSize)
  unfold AdvancesFrom at asked
  cases questions : message.questions.forM putQuestion {} with
  | error overflow output => simp [questions] at written
  | ok answer output =>
      rw [questions] at asked
      simp only [questions, Option.some.injEq] at written
      rw [← written]
      have answers := position_writeSection 0 message.answers output
      have authorities := position_writeSection 0 message.authorities
        (writeSection 0 message.answers output).2
      have additionals := position_writeSection 0 message.additionals
        (writeSection 0 message.authorities (writeSection 0 message.answers output).2).2
      have extension := position_writeSection 0
        (message.edns.map (extensionRecord message.header.responseCode)).toList
        (writeSection 0 message.additionals
          (writeSection 0 message.authorities (writeSection 0 message.answers output).2).2).2
      simp only [Output.position] at asked answers authorities additionals extension
      simp only [Output.octets, List.length_append, Array.length_toList]
      omega

/-- A message is written in no fewer octets than its header and its questions take. -/
theorem leastSize_le_of_encode?
    {message : Message}
    {octets : Octets}
    (encoded : message.encode? = some octets) :
    headerSize + 5 * message.questions.length ≤ octets.length := by
  rcases Option.map_eq_some_iff.mp encoded with ⟨tail, written, rfl⟩
  rcases Option.map_eq_some_iff.mp written with ⟨body, built, rfl⟩
  have least := leastSize_le_of_body? built
  simp only [List.length_append, headerTail, List.length_cons, Octets.length_ofUInt16, headerSize]
  omega

/-- A message with one question and nothing else is written in full. -/
theorem encode?_of_question
    (header : Header)
    (question : Question) :
    (Message.mk header [question] [] [] [] none).encode? =
      some (Octets.ofUInt16 header.id ++
        (headerTail header ⟨1, 0, 0, 0⟩ header.truncated ++ questionOctets question)) := by
  have short := question.name.wireLength_le
  have asked : Puts (putQuestion question) {} (questionOctets question) :=
    puts_putQuestion (fun _ _ => rfl) (by
      rw [length_questionOctets]
      change 12 + (wireLength question.name.labels + 4) ≤ 65535
      omega)
  rcases asked with ⟨targets, asked⟩
  have questions : [question].forM putQuestion {} = .ok () _ := run_bind_of_ok asked
  have octets : (({} : Output).extend (questionOctets question) targets).octets =
      questionOctets question := by
    simp [Output.octets, Output.extend]
  simp only [encode?, tail?, body?, questions, Option.map_none, Option.toList_none, writeSection,
    octets, Option.map_some, Bool.or_false, List.length_singleton]
  rfl

end Message

end DnsOverQuic.Dns

/-! ## The size guard -/

namespace DnsOverQuic.Gateway

open Dns

/--
The size guard drops nothing that asks something.  It drops what has fewer than seventeen
octets, and what can be read of so few is a bare header; whatever has a question is written in
seventeen octets at least, so it passes the guard and is taken from its stream; and a question
at the root is written in seventeen.
-/
theorem size_guard_spares_questions :
    (∀ octets, Guard.isUndersized octets = true ↔ octets.length < 17) ∧
    (∀ octets message, octets.length < 17 ∨ Guard.isUndersized octets = true →
      Codec.wire.decode octets = some message → message = { header := message.header }) ∧
    (∀ message octets, message.questions ≠ [] → Codec.wire.encode message = some octets →
      17 ≤ octets.length ∧ Guard.isUndersized octets = false ∧
        ∀ acceptance, (ClientStream.mk (.ok octets) acceptance).message? = some octets) ∧
    ∀ header type recordClass, ∃ octets,
      Codec.wire.encode { header, questions := [⟨Name.root, type, recordClass⟩] } =
        some octets ∧ octets.length = 17 := by
  have undersized (octets : Octets) : Guard.isUndersized octets = true ↔ octets.length < 17 :=
    decide_eq_true_iff
  refine ⟨undersized, ?_, ?_, fun header type recordClass =>
    ⟨_, Message.encode?_of_question header ⟨Name.root, type, recordClass⟩, rfl⟩⟩
  · intro octets message few decoded
    have least := Message.leastSize_le_of_decode (Codec.decode_wire_eq_some_iff.mp decoded)
    have short : octets.length < 17 := few.elim id (undersized octets).mp
    rcases message with ⟨header, questions, answers, authorities, additionals, edns⟩
    simp only [Message.leastSize, Wire.headerSize] at least
    have noQuestions : questions = [] := List.length_eq_zero_iff.mp (by omega)
    have noAnswers : answers = [] := List.length_eq_zero_iff.mp (by omega)
    have noAuthorities : authorities = [] := List.length_eq_zero_iff.mp (by omega)
    have noAdditionals : additionals = [] := List.length_eq_zero_iff.mp (by omega)
    have noExtension : edns = none :=
      Option.toList_eq_nil_iff.mp (List.length_eq_zero_iff.mp (by omega))
    subst noQuestions noAnswers noAuthorities noAdditionals noExtension
    rfl
  · intro message octets asks encoded
    have least := Message.leastSize_le_of_encode? encoded
    have most := Message.length_of_encode? encoded
    have some : 0 < message.questions.length := List.length_pos_iff.mpr asks
    simp only [Wire.headerSize] at least
    have enough : 17 ≤ octets.length := by
      omega
    have passes : Guard.isUndersized octets = false :=
      decide_eq_false (Nat.not_lt_of_le enough)
    refine ⟨enough, passes, fun acceptance => ?_⟩
    simp only [ClientStream.message?, ClientStream.read, if_pos most, passes, Bool.false_eq_true,
      if_false]

/-- Sixteen octets hold a bare header, and a root question comes through the guard. -/
theorem size_guard_spares_questions_at_its_bound :
    let octets : Octets := List.replicate 16 0
    let query : Message := { questions := [⟨Name.root, .a, .internet⟩] }
    Guard.isUndersized octets = true ∧ Codec.wire.decode octets = some .empty ∧
      Message.empty = { header := Message.empty.header } ∧
      query.questions ≠ [] ∧
      ∃ written, Codec.wire.encode query = some written ∧ written.length = 17 ∧
        Guard.isUndersized written = false := by
  intro octets query
  have undersized : Guard.isUndersized octets = true := rfl
  have decoded : Codec.wire.decode octets = some .empty := rfl
  have asks : query.questions ≠ [] := List.cons_ne_nil _ _
  rcases size_guard_spares_questions with ⟨-, dropped, kept, attained⟩
  rcases attained {} .a .internet with ⟨written, encoded, length⟩
  exact ⟨undersized, decoded, dropped octets .empty (.inr undersized) decoded, asks, written,
    encoded, length, (kept query written asks encoded).2.1⟩

end DnsOverQuic.Gateway
