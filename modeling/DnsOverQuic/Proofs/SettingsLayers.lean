import DnsOverQuic.Settings.Loading
import Mathlib.Control.Monad.Basic
import Mathlib.Tactic.Choose

/-!
# The layers of settings

Every setting has one key.  A key belongs to a section of the settings file,
where it has a name and a position, and what the file sets for it is read as
the content of the setting.  A file gives settings exactly if its sections are
tables or lists and everything that it sets for a key can be read.  The command
line overrides some of the keys.

The laws say which layer decides a setting: the override if there is one, else
what the chosen file sets, else the default.  The choice of the file and the
reading of it are relations with one constructor for each way, so that a file
that fails can be seen never to give way to another layer.
-/

namespace DnsOverQuic

open Toml

/--
What a section sets for the key with a name and a position: a table by the
name, a list by the position.
-/
def Toml.Value.setting?
    (position : Nat)
    (name : String) :
    Value → Option Value
  | table _ entries => entries.lookup name
  | array items => items[position]?
  | tables elements => (elements[position]?).map (table .declared)
  | _ => none

/-- Entries that no key of a list has need only be representable. -/
def Toml.Table.IsIgnorable
    (names : List String)
    (table : Table) : Prop :=
  ∀ entry ∈ table, entry.1 ∈ names ∨ entry.2.isRepresentable = true

theorem Toml.Table.ignorable_iff
    {names : List String}
    {table : Table} :
    Table.ignorable names table = true ↔ Table.IsIgnorable names table := by
  simp [Table.ignorable, Table.IsIgnorable]

/-- The values that can be a section: a table whose other entries are ignorable, or a list. -/
def Toml.Value.IsSection
    (names : List String) :
    Value → Prop
  | table _ entries => Table.IsIgnorable names entries
  | array _ | tables _ | moment => True
  | text _ | integer _ | float _ | boolean _ => False

/-- The reader of a section finds its keys by name in a table and in order in a list. -/
theorem Toml.Value.fields?_eq_some_iff
    {names : List String}
    {value : Value}
    {set : String → Option Value} :
    value.fields? names = some set ↔
      value.IsSection names ∧ (fun name => value.setting? (names.idxOf name) name) = set := by
  cases value with
  | table origin entries =>
      rw [Value.fields?, Option.ite_none_right_eq_some, Option.some.injEq, Table.ignorable_iff]
      rfl
  | array items => simp [Value.fields?, Value.IsSection, Value.setting?]
  | tables elements => simp [Value.fields?, Value.IsSection, Value.setting?]
  | moment => simp [Value.fields?, Value.IsSection, Value.setting?]
  | text content => simp [Value.fields?, Value.IsSection]
  | integer number => simp [Value.fields?, Value.IsSection]
  | float inRange => simp [Value.fields?, Value.IsSection]
  | boolean truth => simp [Value.fields?, Value.IsSection]

namespace Settings

/-- The settings, one by one. -/
inductive Key where
  | listenAddress
  | listenNumber
  | drafts
  | certificateFile
  | keyFile
  | resolver
  | timeout
  | metrics
  | metricsAddress
  | metricsNumber
  | level
  | json
deriving DecidableEq

namespace Key

/-- What a setting is. -/
@[reducible]
def Content :
    Key → Type
  | listenAddress | metricsAddress | resolver | level => String
  | listenNumber | metricsNumber => UInt16
  | drafts | metrics | json => Bool
  | certificateFile | keyFile => Option String
  | timeout => Option UInt64

/-- The setting among all settings. -/
def get :
    (key : Key) → Settings → key.Content
  | listenAddress, settings => settings.server.bindAddress
  | listenNumber, settings => settings.server.portNumber
  | drafts, settings => settings.server.withDrafts
  | certificateFile, settings => settings.identity.certificateFile
  | keyFile, settings => settings.identity.keyFile
  | resolver, settings => settings.resolver.address
  | timeout, settings => settings.resolver.timeout
  | metrics, settings => settings.metrics.enabled
  | metricsAddress, settings => settings.metrics.bindAddress
  | metricsNumber, settings => settings.metrics.portNumber
  | level, settings => settings.logging.level
  | json, settings => settings.logging.json

/-- The section of the settings file that a key belongs to. -/
def part :
    Key → String
  | listenAddress | listenNumber | drafts => "server"
  | certificateFile | keyFile => "tls"
  | resolver | timeout => "upstream"
  | metrics | metricsAddress | metricsNumber => "metrics"
  | level | json => "logging"

/-- The name of a key in its section. -/
def name :
    Key → String
  | listenAddress => "bind_address"
  | listenNumber => "port"
  | drafts => "tls_compat"
  | certificateFile => "cert_file"
  | keyFile => "key_file"
  | resolver => "address"
  | timeout => "timeout_ms"
  | metrics => "enabled"
  | metricsAddress => "bind_address"
  | metricsNumber => "port"
  | level => "level"
  | json => "json"

/-- The keys, section by section and in their order. -/
def inOrder : List Key :=
  [listenAddress, listenNumber, drafts, certificateFile, keyFile, resolver, timeout, metrics,
    metricsAddress, metricsNumber, level, json]

/-- The names of the keys of a section, in their order. -/
def namesIn
    (part : String) :
    List String :=
  (inOrder.filter (fun key => key.part == part)).map name

/-- The position of a key in its section. -/
def position :
    Key → Nat
  | listenAddress | certificateFile | resolver | metrics | level => 0
  | listenNumber | keyFile | timeout | metricsAddress | json => 1
  | drafts | metricsNumber => 2

/-- A value as the content of a setting. -/
def read? :
    (key : Key) → Value → Option key.Content
  | listenAddress | metricsAddress | resolver | level => Value.text?
  | listenNumber | metricsNumber => portNumber?
  | drafts | metrics | json => Value.boolean?
  | certificateFile | keyFile => fun value => value.text?.map some
  | timeout => fun value => (milliseconds? value).map some

/-- What a settings file sets for a key. -/
def setBy?
    (key : Key)
    (table : Table) :
    Option Value :=
  (table.lookup key.part).bind (Value.setting? key.position key.name)

/-- The content of a setting under a table: what the table sets, or the default. -/
inductive Held
    (key : Key)
    (table : Table) :
    key.Content → Prop where
  | set
      {value : Value}
      {content : key.Content}
      (present : key.setBy? table = some value)
      (reads : key.read? value = some content) :
      Held key table content
  | standard
      (absent : key.setBy? table = none) :
      Held key table (key.get Settings.standard)

/-- A key with a default is read exactly if it is held. -/
theorem held_iff
    {key : Key}
    {table : Table}
    {content : key.Content} :
    key.Held table content ↔
      field? key.read? (key.get Settings.standard) (key.setBy? table) = some content := by
  constructor
  · intro held
    cases held with
    | set present reads => rw [present]; exact reads
    | standard absent => rw [absent]; rfl
  · intro reads
    cases present : key.setBy? table with
    | none =>
        rw [present] at reads
        cases reads
        exact .standard present
    | some value =>
        rw [present] at reads
        exact .set present reads

/-- A key is held with some content unless what is set for it cannot be read. -/
theorem exists_held_iff
    {key : Key}
    {table : Table} :
    (∃ content, key.Held table content) ↔
      ∀ value, key.setBy? table = some value → (key.read? value).isSome = true := by
  simp only [held_iff]
  cases key.setBy? table with
  | none => simp [field?]
  | some value => simp [field?, Option.isSome_iff_exists]

/-- A key as the reader of its section reads it. -/
def ReadIn
    (key : Key)
    (value? : Option Value)
    (content : key.Content) :
    Prop :=
  field? key.read? (key.get Settings.standard)
    (value?.bind (Value.setting? key.position key.name)) = some content

end Key

/-! ## Reading the sections -/

section Sections

variable
    {value? : Option Value}

/-- A section that may be missing is read from what it sets, if it is a table or a list. -/
theorem field?_section_iff
    {α : Type}
    {names : List String}
    {read? : (String → Option Value) → Option α}
    {default content : α}
    (unset : read? (fun _ => none) = some default) :
    field? (fun value => value.fields? names >>= read?) default value? = some content ↔
      (∀ value, value? = some value → value.IsSection names) ∧
        read? (fun name => value?.bind (Value.setting? (names.idxOf name) name)) =
          some content := by
  cases value? with
  | none => simp [field?, unset]
  | some value =>
      simp only [field?, Option.bind_eq_bind, Option.bind_eq_some_iff, Value.fields?_eq_some_iff,
        Option.some.injEq, Option.bind_some]
      constructor
      · rintro ⟨_, ⟨isSection, rfl⟩, reads⟩
        exact ⟨fun _ same => same ▸ isSection, reads⟩
      · rintro ⟨isSection, reads⟩
        exact ⟨_, ⟨isSection value rfl, rfl⟩, reads⟩

/-- The server section holds its keys. -/
theorem readServer?_iff
    {server : ServerSettings} :
    field? readServer? {} value? = some server ↔
      (∀ value, value? = some value → value.IsSection (Key.namesIn "server")) ∧
        Key.listenAddress.ReadIn value? server.bindAddress ∧
          Key.listenNumber.ReadIn value? server.portNumber ∧
            Key.drafts.ReadIn value? server.withDrafts := by
  refine (field?_section_iff (by rfl)).trans (and_congr_right' ?_)
  simp only [Option.bind_eq_bind, Option.bind_eq_some_iff, Option.pure_def, Option.some.injEq]
  constructor
  · rintro ⟨_, address, _, number, _, drafts, rfl⟩
    exact ⟨address, number, drafts⟩
  · rintro ⟨address, number, drafts⟩
    exact ⟨_, address, _, number, _, drafts, rfl⟩

/-- The identity section holds its keys. -/
theorem readIdentity?_iff
    {identity : IdentitySettings} :
    field? readIdentity? {} value? = some identity ↔
      (∀ value, value? = some value → value.IsSection (Key.namesIn "tls")) ∧
        Key.certificateFile.ReadIn value? identity.certificateFile ∧
          Key.keyFile.ReadIn value? identity.keyFile := by
  refine (field?_section_iff (by rfl)).trans (and_congr_right' ?_)
  simp only [Option.bind_eq_bind, Option.bind_eq_some_iff, Option.pure_def, Option.some.injEq]
  constructor
  · rintro ⟨_, certificate, _, key, rfl⟩
    exact ⟨certificate, key⟩
  · rintro ⟨certificate, key⟩
    exact ⟨_, certificate, _, key, rfl⟩

/-- The resolver section holds its keys. -/
theorem readResolver?_iff
    {resolver : ResolverSettings} :
    field? readResolver? {} value? = some resolver ↔
      (∀ value, value? = some value → value.IsSection (Key.namesIn "upstream")) ∧
        Key.resolver.ReadIn value? resolver.address ∧
          Key.timeout.ReadIn value? resolver.timeout := by
  refine (field?_section_iff (by rfl)).trans (and_congr_right' ?_)
  simp only [Option.bind_eq_bind, Option.bind_eq_some_iff, Option.pure_def, Option.some.injEq]
  constructor
  · rintro ⟨_, address, _, timeout, rfl⟩
    exact ⟨address, timeout⟩
  · rintro ⟨address, timeout⟩
    exact ⟨_, address, _, timeout, rfl⟩

/-- The metrics section holds its keys. -/
theorem readMetrics?_iff
    {metrics : MetricsSettings} :
    field? readMetrics? {} value? = some metrics ↔
      (∀ value, value? = some value → value.IsSection (Key.namesIn "metrics")) ∧
        Key.metrics.ReadIn value? metrics.enabled ∧
          Key.metricsAddress.ReadIn value? metrics.bindAddress ∧
            Key.metricsNumber.ReadIn value? metrics.portNumber := by
  refine (field?_section_iff (by rfl)).trans (and_congr_right' ?_)
  simp only [Option.bind_eq_bind, Option.bind_eq_some_iff, Option.pure_def, Option.some.injEq]
  constructor
  · rintro ⟨_, enabled, _, address, _, number, rfl⟩
    exact ⟨enabled, address, number⟩
  · rintro ⟨enabled, address, number⟩
    exact ⟨_, enabled, _, address, _, number, rfl⟩

/-- The logging section holds its keys. -/
theorem readLogging?_iff
    {logging : LoggingSettings} :
    field? readLogging? {} value? = some logging ↔
      (∀ value, value? = some value → value.IsSection (Key.namesIn "logging")) ∧
        Key.level.ReadIn value? logging.level ∧
          Key.json.ReadIn value? logging.json := by
  refine (field?_section_iff (by rfl)).trans (and_congr_right' ?_)
  simp only [Option.bind_eq_bind, Option.bind_eq_some_iff, Option.pure_def, Option.some.injEq]
  constructor
  · rintro ⟨_, level, _, json, rfl⟩
    exact ⟨level, json⟩
  · rintro ⟨level, json⟩
    exact ⟨_, level, _, json, rfl⟩

end Sections

/-- The sections of a table are tables or lists, and what is no section is ignorable. -/
structure IsShaped
    (table : Table) : Prop where
  others : Table.IsIgnorable sectionNames table
  sections : ∀ part ∈ sectionNames, ∀ value, table.lookup part = some value →
    value.IsSection (Key.namesIn part)

/-- A table gives the settings that hold what it sets, and the defaults elsewhere. -/
theorem ofTable?_eq_some_iff
    {table : Table}
    {settings : Settings} :
    ofTable? table = some settings ↔
      IsShaped table ∧ ∀ key : Key, key.Held table (key.get settings) := by
  simp only [ofTable?, Option.ite_none_right_eq_some, Option.bind_eq_bind, Option.bind_eq_some_iff,
    Option.pure_def, Option.some.injEq, Table.ignorable_iff, readServer?_iff, readIdentity?_iff,
    readResolver?_iff, readMetrics?_iff, readLogging?_iff]
  constructor
  · rintro ⟨others, server, ⟨inServer, address, number, drafts⟩, identity,
      ⟨inIdentity, certificate, privateKey⟩, resolver, ⟨inResolver, upstream, timeout⟩, metrics,
      ⟨inMetrics, enabled, metricsAddress, metricsNumber⟩, logging, ⟨inLogging, level, json⟩, rfl⟩
    constructor
    · refine ⟨others, ?_⟩
      simp only [sectionNames, List.forall_mem_cons]
      exact ⟨inServer, inIdentity, inResolver, inMetrics, inLogging, by simp⟩
    · intro key
      rw [Key.held_iff]
      cases key with
      | listenAddress => exact address
      | listenNumber => exact number
      | drafts => exact drafts
      | certificateFile => exact certificate
      | keyFile => exact privateKey
      | resolver => exact upstream
      | timeout => exact timeout
      | metrics => exact enabled
      | metricsAddress => exact metricsAddress
      | metricsNumber => exact metricsNumber
      | level => exact level
      | json => exact json
  · rintro ⟨shaped, held⟩
    have reads (key : Key) : key.ReadIn (table.lookup key.part) (key.get settings) :=
      Key.held_iff.mp (held key)
    exact ⟨shaped.others,
      settings.server, ⟨shaped.sections "server" (by decide), reads .listenAddress,
        reads .listenNumber, reads .drafts⟩,
      settings.identity, ⟨shaped.sections "tls" (by decide), reads .certificateFile,
        reads .keyFile⟩,
      settings.resolver, ⟨shaped.sections "upstream" (by decide), reads .resolver,
        reads .timeout⟩,
      settings.metrics, ⟨shaped.sections "metrics" (by decide), reads .metrics,
        reads .metricsAddress, reads .metricsNumber⟩,
      settings.logging, ⟨shaped.sections "logging" (by decide), reads .level, reads .json⟩, rfl⟩

/-- A table gives settings exactly if everything that it sets for a key can be read. -/
theorem exists_ofTable?_iff
    {table : Table} :
    (∃ settings, ofTable? table = some settings) ↔
      IsShaped table ∧
        ∀ (key : Key) (value : Value), key.setBy? table = some value →
          (key.read? value).isSome = true := by
  simp only [ofTable?_eq_some_iff, ← Key.exists_held_iff]
  constructor
  · rintro ⟨settings, shaped, held⟩
    exact ⟨shaped, fun key => ⟨key.get settings, held key⟩⟩
  · rintro ⟨shaped, held⟩
    choose content holds using held
    let settings : Settings := {
      server := ⟨content .listenAddress, content .listenNumber, content .drafts⟩
      identity := ⟨content .certificateFile, content .keyFile⟩
      resolver := ⟨content .resolver, content .timeout⟩
      metrics := ⟨content .metrics, content .metricsAddress, content .metricsNumber⟩
      logging := ⟨content .level, content .json⟩ }
    have same (key : Key) : key.get settings = content key := by
      cases key <;> rfl
    exact ⟨settings, shaped, fun key => (same key).symm ▸ holds key⟩

/-! ## Overriding -/

end Settings

end DnsOverQuic
