import DnsOverQuic.Proofs.TraceLanguage
import DnsOverQuic.Proofs.WireForm

/-!
# Options of extension records, and the one that no stream may carry

The data of an extension record are options one behind the other, each a code and
data behind their length.  Such data are read exactly if the data of every option
are, and then into options with the same codes in the same order.  So a message
that can be read shows every option code that stands in it, wherever the option
stands and whatever surrounds it, and the keepalive option is never overlooked.
-/

namespace DnsOverQuic.Dns

/-- An option as it stands in the data of an extension record. -/
structure OptionForm where
  code : UInt16
  data : Octets
deriving DecidableEq

namespace OptionForm

/-- The octets of an option: its code, and its data behind their length. -/
def octets
    (option : OptionForm) :
    Octets :=
  Octets.ofUInt16 option.code ++
    (Octets.ofUInt16 (UInt16.ofNat option.data.length) ++ option.data)

@[simp]
theorem length_octets
    (option : OptionForm) :
    option.octets.length = 4 + option.data.length := by
  simp only [octets, List.length_append, Octets.length_ofUInt16]
  omega

/-- The option that the data stand for, by the code. -/
def read
    (option : OptionForm) :
    Except Wire.Malformation EdnsOption :=
  Wire.readOption option.code option.data

end OptionForm

/-- The octets of options one behind the other. -/
def optionOctets
    (options : List OptionForm) :
    Octets :=
  options.flatMap OptionForm.octets

@[simp]
theorem optionOctets_nil :
    optionOctets [] = [] :=
  rfl

theorem optionOctets_cons
    (option : OptionForm)
    (options : List OptionForm) :
    optionOctets (option :: options) = option.octets ++ optionOctets options :=
  List.flatMap_cons

theorem length_optionOctets_cons
    (option : OptionForm)
    (options : List OptionForm) :
    (optionOctets (option :: options)).length =
      4 + option.data.length + (optionOctets options).length := by
  rw [optionOctets_cons, List.length_append, OptionForm.length_octets]

theorem length_optionOctets_pos
    {options : List OptionForm}
    (some : options ≠ []) :
    0 < (optionOctets options).length := by
  cases options with
  | nil => exact absurd rfl some
  | cons option options =>
      rw [length_optionOctets_cons]
      omega

namespace Wire

/-! ## Reading options -/

/-- An option is read under the code that it stands under. -/
theorem code_of_readOption
    {code : UInt16}
    {data : Octets}
    {option : EdnsOption}
    (read : readOption code data = .ok option) :
    option.code = code := by
  unfold readOption at read
  split at read
  next subnet =>
    rw [subnet]
    unfold readClientSubnet at read
    split at read
    · split at read
      · cases read
      · dsimp only at read
        split at read
        · cases read
          rfl
        · cases read
    · cases read
  next =>
    cases read
    rfl

/-- Options are read with the codes that they stand under, in the same order. -/
theorem map_code_of_mapM_read
    {options : List OptionForm}
    {read : List EdnsOption}
    (reads : options.mapM OptionForm.read = .ok read) :
    read.map EdnsOption.code = options.map OptionForm.code := by
  induction options generalizing read with
  | nil =>
      cases reads
      rfl
  | cons option options ih =>
      rw [List.mapM_cons] at reads
      rcases exists_of_bind_eq_ok reads with ⟨first, readsFirst, reads⟩
      rcases exists_of_bind_eq_ok reads with ⟨others, readsOthers, reads⟩
      cases reads
      rw [List.map_cons, List.map_cons, ih readsOthers, code_of_readOption readsFirst]

theorem take_append
    (position : Nat)
    (octets rest : Octets) :
    Cursor.take octets.length ⟨position, octets ++ rest⟩ =
      .ok (octets, ⟨position + octets.length, rest⟩) := by
  rw [Cursor.take, Octets.splitExact?_append]

/-- The first of several options is read, and then the others. -/
theorem readOptions_cons
    {total : Nat}
    (small : total < 65536)
    (option : OptionForm)
    (remaining position : Nat)
    (few : option.octets.length + remaining ≤ total)
    (before : List EdnsOption)
    (rest : Octets) :
    readOptions total (option.octets.length + remaining) before
        ⟨position, option.octets ++ rest⟩ =
      (do
        let read ← option.read
        readOptions total remaining (read :: before)
          ⟨position + option.octets.length, rest⟩) := by
  rw [OptionForm.length_octets] at few ⊢
  have length : (UInt16.ofNat option.data.length).toNat = option.data.length :=
    UInt16.toNat_ofNat_of_lt' (by simp only [UInt16.size]; omega)
  have further : position + 2 + 2 + option.data.length = position + (4 + option.data.length) := by
    omega
  have left : 4 + option.data.length + remaining - 4 - option.data.length = remaining := by
    omega
  -- No check of the reader stops it: what is left always covers the whole option.
  have taken := take_append (position + 2 + 2) option.data rest
  rw [further] at taken
  rw [readOptions, if_neg (by omega), OptionForm.octets, List.append_assoc, List.append_assoc]
  refine (bind_of_eq_ok (word_ofUInt16 position option.code _)).trans ?_
  dsimp only
  rw [if_neg (by omega), if_neg (by omega)]
  refine (bind_of_eq_ok (word_ofUInt16 _ (UInt16.ofNat option.data.length) _)).trans ?_
  dsimp only
  rw [length, if_neg (by omega), if_neg (by omega), if_neg (by omega)]
  refine (bind_of_eq_ok taken).trans ?_
  rw [left]
  rfl

/-- Options are read exactly if the data of each of them are. -/
theorem readOptions_optionOctets
    {total : Nat}
    (small : total < 65536)
    (options : List OptionForm)
    (few : (optionOctets options).length ≤ total)
    (before : List EdnsOption)
    (position : Nat)
    (rest : Octets) :
    readOptions total (optionOctets options).length before
        ⟨position, optionOctets options ++ rest⟩ =
      (options.mapM OptionForm.read).map (fun read =>
        (before.reverse ++ read, ⟨position + (optionOctets options).length, rest⟩)) := by
  induction options generalizing before position with
  | nil =>
      rw [readOptions]
      simp [Except.map, pure, Except.pure]
  | cons option options ih =>
      rw [optionOctets_cons, List.length_append] at few ⊢
      rw [List.append_assoc, readOptions_cons small option _ position few, List.mapM_cons]
      cases option.read with
      | error malformation => rfl
      | ok read =>
          refine (ih (by omega) (read :: before) (position + option.octets.length)).trans ?_
          rw [Nat.add_assoc]
          cases options.mapM OptionForm.read with
          | error malformation => rfl
          | ok others => simp [Except.map, bind, Except.bind, pure, Except.pure]

/-- The data of an extension record with options are read exactly if those of each option are. -/
theorem readData_optionOctets
    (message : Octets)
    {options : List OptionForm}
    (some : options ≠ [])
    (short : (optionOctets options).length < 65536)
    (position : Nat) :
    readData message .opt (optionOctets options).length ⟨position, optionOctets options⟩ =
      ((options.mapM OptionForm.read).map RecordData.opt).map
        (·, ⟨position + (optionOctets options).length, []⟩) := by
  have reads := readOptions_optionOctets short options (Nat.le_refl _) [] position []
  rw [List.append_nil] at reads
  rw [readData, if_neg (Nat.ne_of_gt (length_optionOctets_pos some))]
  change (readOptions _ _ [] _ >>= _) >>= _ = _
  rw [reads]
  cases options.mapM OptionForm.read with
  | error malformation => rfl
  | ok read => exact if_pos rfl

end Wire

/-! ## Messages with options -/

/--
The parts of a message with one question and an extension record: the question with
the octets that its name is written in, and the class and lifetime bits, the options
and the octets of the owner of the record.
-/
structure ExtendedQuery where
  id : UInt16
  firstFlags : UInt8
  secondFlags : UInt8
  question : Question
  name : Octets
  owner : Octets
  payload : UInt16
  lifetime : UInt32
  options : List OptionForm

namespace ExtendedQuery

open Wire

variable
    (parts : ExtendedQuery)

/-- The extension record, whose options stand apart. -/
def extension : Record where
  owner := Name.root
  recordClass := ⟨parts.payload⟩
  lifetime := parts.lifetime
  data := .opt []

/-- The octets of the message. -/
def octets : Octets :=
  Message.pairOctets parts.id parts.firstFlags parts.secondFlags
    (parts.name ++ questionTail parts.question)
    (parts.owner ++ recordTail parts.extension (optionOctets parts.options))

/-- The offset of the extension record. -/
def extensionOffset : Nat :=
  headerSize + parts.name.length + 4

/-- The names of the message are written in one of their forms, and the record is at the root. -/
structure WellFormed : Prop where
  named :
    NameForm parts.octets headerSize none headerSize parts.name parts.question.name.labels
  rooted :
    NameForm parts.octets parts.extensionOffset none parts.extensionOffset parts.owner []

theorem length_octets :
    parts.octets.length =
      parts.extensionOffset + parts.owner.length + 10 + (optionOctets parts.options).length := by
  simp only [octets, Message.pairOctets, extensionOffset, headerSize, List.length_append,
    List.length_cons, Octets.length_ofUInt16, length_questionTail, length_recordTail]
  omega

/-- What the message is read as, when its options are read as the given ones. -/
def message
    (options : List EdnsOption) :
    Message :=
  let record := extensionAsRead parts.extension (.opt options)
  { header :=
      completeHeader (headerOfFlags parts.id parts.firstFlags parts.secondFlags) (some record)
    questions := [parts.question.rooted]
    edns := some (ednsOfRecord record) }

variable
    {parts}

/-- A message with options is read exactly if the data of each option are. -/
theorem decode_octets
    (wellFormed : parts.WellFormed)
    (few : parts.octets.length ≤ Protocol.maxMessageSize)
    (some : parts.options ≠ []) :
    Message.decode parts.octets = (parts.options.mapM OptionForm.read).map parts.message := by
  have short : (optionOctets parts.options).length < 65536 := by
    rw [length_octets, Protocol.maxMessageSize] at few
    omega
  refine (Message.decode_of_forms rfl wellFormed.named wellFormed.rooted rfl short
    (readData_optionOctets _ some short _) ?_).trans ?_
  · intro read same
    cases reads : parts.options.mapM OptionForm.read with
    | error malformation =>
        rw [reads] at same
        cases same
    | ok options =>
        rw [reads] at same
        cases same
        rfl
  · cases parts.options.mapM OptionForm.read <;> rfl

theorem hasOption_message
    {options : List EdnsOption}
    {code : UInt16}
    (member : code ∈ options.map EdnsOption.code) :
    (parts.message options).hasOption code = true := by
  rcases List.mem_map.mp member with ⟨option, found, rfl⟩
  exact List.any_eq_true.mpr ⟨option, found, beq_self_eq_true _⟩

/-- A message that can be read shows the code of every option that stands in it. -/
theorem hasOption_of_decode
    (wellFormed : parts.WellFormed)
    (few : parts.octets.length ≤ Protocol.maxMessageSize)
    {message : Message}
    (decoded : Message.decode parts.octets = .ok message)
    {option : OptionForm}
    (stands : option ∈ parts.options) :
    message.hasOption option.code = true := by
  rw [decode_octets wellFormed few (List.ne_nil_of_mem stands)] at decoded
  cases reads : parts.options.mapM OptionForm.read with
  | error malformation =>
      rw [reads] at decoded
      cases decoded
  | ok options =>
      rw [reads] at decoded
      cases decoded
      apply hasOption_message
      rw [map_code_of_mapM_read reads]
      exact List.mem_map_of_mem stands

end ExtendedQuery

end DnsOverQuic.Dns

namespace DnsOverQuic.Gateway

open Dns

namespace Handler

/-- Octets whose every reading carries the keepalive option are refused. -/
theorem handle_of_keepalive
    {handler : Handler}
    {forward : Forwarder}
    {stream : ClientStream}
    {octets : Octets}
    (delivered : stream.message? = some octets)
    (carries : ∀ query, handler.codec.decode octets = some query →
      Guard.carriesKeepalive query = true) :
    handler.handle forward stream =
      ⟨[.read Protocol.maxMessageSize, .count .queries, .close],
        if (handler.codec.decode octets).isSome then .keepaliveRejected else .malformed⟩ := by
  apply handle_of_refused delivered
  unfold examine
  cases decoded : handler.codec.decode octets with
  | none => rfl
  | some query => exact if_pos (carries query decoded)

end Handler

/--
No message with the keepalive option among the options of its extension record is
forwarded or answered, wherever the option stands, whatever it contains and however
often it is repeated.  The stream is closed once, and only the query is counted.
-/
theorem refuses_keepalive_among_options
    (resolver : ResolverAddress)
    (forward : Forwarder)
    (acceptance : Acceptance)
    (parts : ExtendedQuery)
    (wellFormed : parts.WellFormed)
    (few : parts.octets.length ≤ Protocol.maxMessageSize)
    (carries : ∃ option ∈ parts.options, option.code = Protocol.keepaliveOptionCode) :
    let transcript := Handler.handle ⟨resolver, .wire⟩ forward ⟨.ok parts.octets, acceptance⟩
    (∀ resolver message, .forward resolver message ∉ transcript.events) ∧
    (∀ octets, .write octets ∉ transcript.events) ∧
    transcript.events.count .close = 1 ∧
    (∀ counters : Counters, counters.afterEvents transcript.events =
      { counters with queries := counters.queries + 1 }) ∧
    (∀ message, Codec.wire.decode parts.octets = some message →
      transcript.outcome = .keepaliveRejected) ∧
    (Codec.wire.decode parts.octets = none → transcript.outcome = .malformed) := by
  intro transcript
  have enough : Protocol.minMessageSize ≤ parts.octets.length := by
    rw [ExtendedQuery.length_octets, ExtendedQuery.extensionOffset, Protocol.minMessageSize,
      Wire.headerSize]
    omega
  have refused : transcript = ⟨[.read Protocol.maxMessageSize, .count .queries, .close],
      if (Codec.wire.decode parts.octets).isSome then .keepaliveRejected else .malformed⟩ := by
    apply Handler.handle_of_keepalive (ClientStream.message?_eq_some_iff.mpr ⟨rfl, enough, few⟩)
    intro query decoded
    rcases carries with ⟨option, stands, code⟩
    have shown := ExtendedQuery.hasOption_of_decode wellFormed few
      (Codec.decode_wire_eq_some_iff.mp decoded) stands
    rw [code] at shown
    exact shown
  rw [refused]
  refine ⟨by simp, by simp, rfl, fun counters => rfl, ?_, ?_⟩
  · intro message decoded
    simp only [decoded, Option.isSome_some, if_true]
  · intro undecoded
    simp only [undecoded, Option.isSome_none, Bool.false_eq_true, if_false]

/--
A question whose name ends in a pointer, and a keepalive option that stands empty behind
a client subnet, and once more at the end.
-/
theorem refuses_keepalive_among_options_behind_subnet :
    let parts : ExtendedQuery := {
      id := 0x1234
      firstFlags := 1
      secondFlags := 0
      question := ⟨⟨[[97]], true, by decide, by decide⟩, .a, .internet⟩
      name := [1, 97, 0xc0, 4]
      owner := [0]
      payload := 1232
      lifetime := 0x8000
      options := [⟨8, [0, 1, 24, 0, 192, 0, 2]⟩, ⟨11, []⟩, ⟨10, [1, 2, 3]⟩, ⟨11, [0, 100]⟩] }
    let transcript :=
      Handler.handle ⟨.literal default, .wire⟩ (fun _ message => .ok message)
        ⟨.ok parts.octets, .all⟩
    parts.WellFormed ∧ parts.octets.length ≤ Protocol.maxMessageSize ∧
      (∃ option ∈ parts.options, option.code = Protocol.keepaliveOptionCode) ∧
      transcript.outcome = .keepaliveRejected ∧
      (∀ octets, .write octets ∉ transcript.events) ∧
      transcript.events.count .close = 1 := by
  intro parts transcript
  -- The pointer aims at the first octet of the number of questions.
  have there : parts.octets.drop 4 = [0] ++ parts.octets.drop 5 := rfl
  have root : Wire.NameForm parts.octets 4 (some 12) 4 [0] [] := .root (by simp)
  have label : 1 ≤ ([97] : Label).length ∧ ([97] : Label).length ≤ 63 := by decide
  have pointer : Wire.NameForm parts.octets 12 none 14 [0xc0, 4] [] :=
    .pointer (by simp) (by decide) (by decide) there root
  have named : Wire.NameForm parts.octets 12 none 12 [1, 97, 0xc0, 4] [[97]] :=
    .label (by simp) label pointer
  have wellFormed : parts.WellFormed := ⟨named, .root (by simp)⟩
  have few : parts.octets.length ≤ Protocol.maxMessageSize := by decide
  have carries : ∃ option ∈ parts.options, option.code = Protocol.keepaliveOptionCode :=
    ⟨⟨11, []⟩, by decide, rfl⟩
  have decoded : Codec.wire.decode parts.octets = some (parts.message
      [.clientSubnet .ipv4 24 0 [192, 0, 2], .uninterpreted 11 [], .uninterpreted 10 [1, 2, 3],
        .uninterpreted 11 [0, 100]]) :=
    Codec.decode_wire_eq_some_iff.mpr
      ((ExtendedQuery.decode_octets wellFormed few (by simp [parts])).trans (by rfl))
  have law := refuses_keepalive_among_options (.literal default) (fun _ message => .ok message)
    .all parts wellFormed few carries
  exact ⟨wellFormed, few, carries, law.2.2.2.2.1 _ decoded, law.2.1, law.2.2.1⟩

end DnsOverQuic.Gateway
