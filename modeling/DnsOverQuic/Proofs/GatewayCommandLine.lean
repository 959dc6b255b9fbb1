import DnsOverQuic.Arguments.Commands
import DnsOverQuic.Proofs.SpelledArguments
import DnsOverQuic.Proofs.UniqueKeys

/-!
# The command line of the gateway

The nine options of the gateway can be written in any order and in any of their
spellings, and are read as the arguments that were written.  What overrides the
settings takes each of them as its own.  Any further spelling of an option that
is there already makes the line unreadable.
-/

namespace DnsOverQuic

open Arguments Text

namespace Arguments

/-- An option that may be left out. -/
def optional
    (name : String)
    (value : Option Value) :
    List (String × Value) :=
  (value.map (name, ·)).toList

section

variable
    {name : String}
    {value : Option Value}

theorem mem_optional
    {option : String × Value} :
    option ∈ optional name value ↔ ∃ given, value = some given ∧ (name, given) = option := by
  simp [optional]

theorem lookup_optional
    (key : String) :
    (optional name value).lookup key = if key == name then value else none := by
  cases value with
  | none => simp [optional]
  | some given =>
      rw [optional, Option.map_some, Option.toList_some, List.lookup_cons, List.lookup_nil]
      cases key == name <;> rfl

/-- Only the name of an option occurs in it. -/
theorem names_optional :
    ((optional name value).map Prod.fst).Sublist [name] := by
  cases value <;> simp [optional]

end

end Arguments

namespace GatewayArguments

/-- The options that arguments consist of. -/
def options
    (arguments : GatewayArguments) :
    List (String × Value) :=
  optional "config" (arguments.settingsFile.map .text) ++
    optional "bind" (arguments.bindAddress.map .text) ++
    optional "port" (arguments.portNumber.map .socketNumber) ++
    optional "upstream" (arguments.resolver.map .text) ++
    optional "cert" (arguments.certificateFile.map .text) ++
    optional "key" (arguments.keyFile.map .text) ++
    optional "tls-compat" (if arguments.withDrafts then some .present else none) ++
    optional "metrics-port" (arguments.metricsNumber.map .socketNumber) ++
    optional "log-level" (arguments.logLevel.map .text)

theorem lawful_flags :
    Lawful flags where
  names := by decide
  letters := by decide
  named := by decide
  undivided := by decide
  undashed := by decide

/-- No flag occurs twice in arguments. -/
theorem nodup_options
    (arguments : GatewayArguments) :
    (arguments.options.map Prod.fst).Nodup := by
  have sublist :
      (arguments.options.map Prod.fst).Sublist
        ["config", "bind", "port", "upstream", "cert", "key", "tls-compat", "metrics-port",
          "log-level"] := by
    simp only [options, List.map_append]
    exact ((((((((names_optional.append names_optional).append names_optional).append
      names_optional).append names_optional).append names_optional).append
      names_optional).append names_optional).append names_optional)
  exact sublist.nodup (by decide)

section

variable
    {given : List (String × Value)}
    {name : String}

theorem textOf?_of_lookup
    {content : Option String}
    (found : given.lookup name = content.map .text) :
    textOf? given name = content := by
  rw [textOf?, found]
  cases content <;> rfl

theorem socketNumberOf?_of_lookup
    {number : Option UInt16}
    (found : given.lookup name = number.map .socketNumber) :
    socketNumberOf? given name = number := by
  rw [socketNumberOf?, found]
  cases number <;> rfl

theorem isPresent_of_lookup
    {present : Bool}
    (found : given.lookup name = if present then some .present else none) :
    isPresent given name = present := by
  rw [isPresent, found]
  cases present <;> rfl

end

/-- The options of arguments are read as these arguments. -/
theorem ofGiven_options
    (arguments : GatewayArguments) :
    ofGiven arguments.options = arguments := by
  rcases arguments with ⟨settingsFile, bindAddress, portNumber, resolver, certificateFile,
    keyFile, withDrafts, metricsNumber, logLevel⟩
  simp only [ofGiven, GatewayArguments.mk.injEq]
  refine ⟨textOf?_of_lookup ?_, textOf?_of_lookup ?_, socketNumberOf?_of_lookup ?_,
    textOf?_of_lookup ?_, textOf?_of_lookup ?_, textOf?_of_lookup ?_, isPresent_of_lookup ?_,
    socketNumberOf?_of_lookup ?_, textOf?_of_lookup ?_⟩
  all_goals simp [options, List.lookup_append, lookup_optional]

/-- Options in any order are read as the arguments that consist of them. -/
theorem ofGiven_of_perm
    {arguments : GatewayArguments}
    {given : List (String × Value)}
    (perm : given.Perm arguments.options) :
    ofGiven given = arguments := by
  have same := lookup_eq_of_perm perm arguments.nodup_options
  calc
    ofGiven given = ofGiven arguments.options := by
      simp only [ofGiven, textOf?, socketNumberOf?, isPresent, same]
    _ = arguments := arguments.ofGiven_options

/-! ## Reading what was written -/

/-- Arguments that can be written: no path is empty. -/
def Writable
    (arguments : GatewayArguments) :
    Prop :=
  arguments.certificateFile ≠ some "" ∧ arguments.keyFile ≠ some ""

theorem exists_spells_of_denotes
    (flag : Flag)
    {kind : ValueKind}
    {content : String}
    {value : Value}
    (known : flag ∈ flags)
    (valued : flag.kind = .valued kind)
    (denotes : Denotes kind content value) :
    ∃ words, Spells flags (flag.name, value) words :=
  ⟨_, .joined known valued denotes .name⟩

/-- Every number of a socket is denoted by its numeral. -/
theorem denotes_numeral
    (number : UInt16) :
    Denotes .socketNumber (String.ofList (Decimal.numeral number.toNat)) (.socketNumber number) :=
  .socketNumber (by rw [String.toList_ofList]; exact Decimal.isNumeral_numeral number.toNat)

/-- Every option of arguments can be spelled. -/
theorem exists_spells
    {arguments : GatewayArguments}
    (writable : arguments.Writable)
    {option : String × Value}
    (among : option ∈ arguments.options) :
    ∃ words, Spells flags option words := by
  simp only [options, List.mem_append, mem_optional, Option.map_eq_some_iff, or_assoc] at among
  rcases among with ⟨_, ⟨content, -, rfl⟩, rfl⟩ | ⟨_, ⟨content, -, rfl⟩, rfl⟩ |
    ⟨_, ⟨number, -, rfl⟩, rfl⟩ | ⟨_, ⟨content, -, rfl⟩, rfl⟩ | ⟨_, ⟨path, given, rfl⟩, rfl⟩ |
    ⟨_, ⟨path, given, rfl⟩, rfl⟩ | ⟨value, given, rfl⟩ | ⟨_, ⟨number, -, rfl⟩, rfl⟩ |
    ⟨_, ⟨content, -, rfl⟩, rfl⟩
  · exact exists_spells_of_denotes ⟨"config", some 'c', .valued .text⟩ (by decide) rfl
      (.text content)
  · exact exists_spells_of_denotes ⟨"bind", some 'b', .valued .text⟩ (by decide) rfl
      (.text content)
  · exact exists_spells_of_denotes ⟨"port", some 'p', .valued .socketNumber⟩ (by decide) rfl
      (denotes_numeral number)
  · exact exists_spells_of_denotes ⟨"upstream", some 'u', .valued .text⟩ (by decide) rfl
      (.text content)
  · have nonempty : path ≠ "" := fun same => writable.1 (same ▸ given)
    exact exists_spells_of_denotes ⟨"cert", none, .valued .path⟩ (by decide) rfl (.path nonempty)
  · have nonempty : path ≠ "" := fun same => writable.2 (same ▸ given)
    exact exists_spells_of_denotes ⟨"key", none, .valued .path⟩ (by decide) rfl (.path nonempty)
  · rw [Option.ite_none_right_eq_some, Option.some.injEq] at given
    rw [← given.2]
    have known : (⟨"tls-compat", none, .switch⟩ : Flag) ∈ flags := by decide
    exact ⟨_, .switch known rfl⟩
  · exact exists_spells_of_denotes ⟨"metrics-port", none, .valued .socketNumber⟩ (by decide) rfl
      (denotes_numeral number)
  · exact exists_spells_of_denotes ⟨"log-level", none, .valued .text⟩ (by decide) rfl
      (.text content)

/-- Options that can each be spelled can be spelled together. -/
theorem exists_spelled
    {options : List (String × Value)}
    (spell : ∀ option ∈ options, ∃ words, Spells flags option words) :
    ∃ spelled : List ((String × Value) × List String),
      spelled.map Prod.fst = options ∧ ∀ entry ∈ spelled, Spells flags entry.1 entry.2 := by
  induction options with
  | nil => exact ⟨[], rfl, by simp⟩
  | cons option options inductive_step =>
      rcases inductive_step (fun other among => spell other (List.mem_cons_of_mem _ among)) with
        ⟨spelled, rfl, spells⟩
      rcases spell option List.mem_cons_self with ⟨words, first⟩
      exact ⟨(option, words) :: spelled, rfl, List.forall_mem_cons.mpr ⟨first, spells⟩⟩

/-- A line in which a flag occurs twice is not read. -/
theorem read_of_repeated
    {before after : List ((String × Value) × List String)}
    {again : String × Value}
    {words : List String}
    (spells : ∀ entry ∈ before ++ after, Spells flags entry.1 entry.2)
    (twice : again.1 ∈ ((before ++ after).map Prod.fst).map Prod.fst)
    (further : Spells flags again words) :
    read (before.flatMap Prod.snd ++ words ++ after.flatMap Prod.snd) = .error .repeated := by
  have all : ∀ entry ∈ before ++ (again, words) :: after, Spells flags entry.1 entry.2 := by
    intro entry among
    rcases List.mem_append.mp among with early | late
    · exact spells entry (List.mem_append_left _ early)
    · rcases List.mem_cons.mp late with rfl | late
      · exact further
      · exact spells entry (List.mem_append_right _ late)
  have repeats :
      ¬(((before ++ (again, words) :: after).map Prod.fst).map Prod.fst).Nodup := by
    simp only [List.map_append, List.map_cons] at twice ⊢
    rw [List.nodup_middle, List.nodup_cons]
    exact fun distinct => distinct.1 twice
  have runs := read_of_spelled lawful_flags all
  rw [if_neg repeats, List.flatMap_append, List.flatMap_cons, ← List.append_assoc] at runs
  rw [read, runs]
  rfl

/--
In any order and in any spellings, the options of arguments are read as these
arguments, and each of them overrides the setting of its own.  Arguments with
paths that are not empty can be spelled.  A further spelling of an option that
is there already, anywhere between the others, makes the line unreadable.
-/
theorem arguments_read_as_written
    (arguments : GatewayArguments) :
    (arguments.Writable →
      ∃ spelled : List ((String × Value) × List String),
        (spelled.map Prod.fst).Perm arguments.options ∧
        ∀ entry ∈ spelled, Spells flags entry.1 entry.2) ∧
    ∀ spelled : List ((String × Value) × List String),
      (spelled.map Prod.fst).Perm arguments.options →
      (∀ entry ∈ spelled, Spells flags entry.1 entry.2) →
      read (spelled.flatMap Prod.snd) = .ok arguments ∧
      (read (spelled.flatMap Prod.snd)).map overrides =
        .ok {
          bindAddress := arguments.bindAddress
          portNumber := arguments.portNumber
          withDrafts := arguments.withDrafts
          certificateFile := arguments.certificateFile
          keyFile := arguments.keyFile
          resolver := arguments.resolver
          metricsNumber := arguments.metricsNumber
          logLevel := arguments.logLevel } ∧
      ∀ (before after : List ((String × Value) × List String))
          (again : String × Value) (words : List String),
        spelled = before ++ after → again.1 ∈ (spelled.map Prod.fst).map Prod.fst →
        Spells flags again words →
        read (before.flatMap Prod.snd ++ words ++ after.flatMap Prod.snd) = .error .repeated := by
  constructor
  · intro writable
    rcases exists_spelled (fun option => exists_spells writable) with ⟨spelled, same, spells⟩
    exact ⟨spelled, same ▸ .refl _, spells⟩
  · intro spelled ordered spells
    have distinct := (ordered.map Prod.fst).nodup_iff.mpr arguments.nodup_options
    have reads : read (spelled.flatMap Prod.snd) = .ok arguments := by
      rw [read, read_of_spelled lawful_flags spells, if_pos distinct]
      exact congrArg Except.ok (ofGiven_of_perm ordered)
    refine ⟨reads, by rw [reads]; rfl, ?_⟩
    rintro before after again words rfl twice further
    exact read_of_repeated spells twice further

/-- Values that look like flags are read as values, and the second port is one too many. -/
theorem arguments_read_as_written_of_values_like_flags :
    read ["-p0784", "--tls-compat", "--bind=--port", "-u", "-"] =
      .ok {
        bindAddress := some "--port"
        portNumber := some 784
        resolver := some "-"
        withDrafts := true } ∧
    read ["-p0784", "--tls-compat", "--port=1", "--bind=--port", "-u", "-"] =
      .error .repeated := by
  have number (text : String) (number : UInt16)
      (reads : Decimal.read? text.toList = some number.toNat) :
      Denotes .socketNumber text (.socketNumber number) :=
    .socketNumber (Decimal.read?_eq_some_iff.mp reads)
  have port : (⟨"port", some 'p', .valued .socketNumber⟩ : Flag) ∈ flags := by decide
  have bind : (⟨"bind", some 'b', .valued .text⟩ : Flag) ∈ flags := by decide
  have upstream : (⟨"upstream", some 'u', .valued .text⟩ : Flag) ∈ flags := by decide
  have drafts : (⟨"tls-compat", none, .switch⟩ : Flag) ∈ flags := by decide
  have spelledPort : Spells flags ("port", .socketNumber 784) ["-p0784"] :=
    .attached port rfl (number "0784" 784 (by decide)) rfl (by decide) (by decide)
  have again : Spells flags ("port", .socketNumber 1) ["--port=1"] :=
    .joined port rfl (number "1" 1 (by decide)) .name
  have spelledDrafts : Spells flags ("tls-compat", .present) ["--tls-compat"] :=
    .switch drafts rfl
  have spelledBind : Spells flags ("bind", .text "--port") ["--bind=--port"] :=
    .joined bind rfl (.text "--port") .name
  have called : Calls ⟨"upstream", some 'u', .valued .text⟩ ("-" ++ 'u'.toString) := .letter rfl
  have spelledUpstream : Spells flags ("upstream", .text "-") ["-u", "-"] :=
    .apart upstream rfl (.text "-") called (fun _ => rfl)
  have spells : ∀ entry ∈ [(("port", .socketNumber 784), ["-p0784"]),
      (("tls-compat", .present), ["--tls-compat"]), (("bind", .text "--port"), ["--bind=--port"]),
      (("upstream", .text "-"), ["-u", "-"])], Spells flags entry.1 entry.2 := by
    simp only [List.forall_mem_cons]
    exact ⟨spelledPort, spelledDrafts, spelledBind, spelledUpstream, by simp⟩
  have reads := (arguments_read_as_written
    { bindAddress := some "--port"
      portNumber := some 784
      resolver := some "-"
      withDrafts := true }).2 _ (by decide) spells
  exact ⟨reads.1, reads.2.2 [_, _] [_, _] _ _ rfl (by decide) again⟩

end GatewayArguments

end DnsOverQuic
