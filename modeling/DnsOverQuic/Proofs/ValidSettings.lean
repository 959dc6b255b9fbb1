import DnsOverQuic.Proofs.EndToEnd
import DnsOverQuic.Proofs.TraceLanguage
import DnsOverQuic.Settings.Loading
import Mathlib.Control.Monad.Basic

/-!
# Valid settings

Settings are valid if they meet six conditions, and otherwise the first one
that they miss is reported.  The checks of the sections come to one search
through the conditions in order.

With valid settings the gateway can be wired.  Every query is forwarded to the
resolver that was checked, and nothing is forwarded to another one, no exchange
is cut off at once, and files that are set for the identity are read and never
replaced by a generated one.
-/

namespace DnsOverQuic

open Text

namespace Settings

/-- What is asked of settings. -/
inductive Condition where
  | serverNumber
  | resolverGiven
  | resolverReadable
  | timeout
  | identityFiles
  | metricsNumber
deriving DecidableEq

namespace Condition

/-- The conditions in the order of their checks. -/
def inOrder : List Condition :=
  [serverNumber, resolverGiven, resolverReadable, timeout, identityFiles, metricsNumber]

/-- True of settings that meet a condition. -/
def Holds
    (settings : Settings) :
    Condition → Prop
  | serverNumber => settings.server.portNumber ≠ 0
  | resolverGiven => ∃ symbol ∈ settings.resolver.address.toList, Alphabet.isBlank symbol = false
  | resolverReadable =>
      ∃ resolver, ResolverAddress.parse settings.resolver.address = .ok resolver
  | timeout => settings.resolver.timeout ≠ some 0
  | identityFiles =>
      settings.identity.certificateFile = none ↔ settings.identity.keyFile = none
  | metricsNumber => settings.metrics.enabled = true → settings.metrics.portNumber ≠ 0

/-- What is reported of settings that miss a condition. -/
inductive Reports
    (settings : Settings) :
    Condition → Invalidity → Prop where
  | serverNumber :
      Reports settings .serverNumber .serverNumberZero
  | resolverGiven :
      Reports settings .resolverGiven .resolverMissing
  | resolverReadable
      {complaint : String}
      (unread : ResolverAddress.parse settings.resolver.address = .error complaint) :
      Reports settings .resolverReadable (.resolverUnreadable complaint)
  | timeout :
      Reports settings .timeout .timeoutZero
  | noKeyFile
      {path : String}
      (certificateFile : settings.identity.certificateFile = some path) :
      Reports settings .identityFiles .keyFileMissing
  | noCertificateFile
      {path : String}
      (keyFile : settings.identity.keyFile = some path) :
      Reports settings .identityFiles .certificateFileMissing
  | metricsNumber :
      Reports settings .metricsNumber .metricsNumberZero

/-- The check of one condition. -/
def fault?
    (settings : Settings) :
    Condition → Option Invalidity
  | serverNumber => serverFault? settings.server
  | resolverGiven =>
      if Alphabet.isBlankText settings.resolver.address.toList then some .resolverMissing else none
  | resolverReadable =>
      match ResolverAddress.parse settings.resolver.address with
      | .error complaint => some (.resolverUnreadable complaint)
      | .ok _ => none
  | timeout => if settings.resolver.timeout = some 0 then some .timeoutZero else none
  | identityFiles => identityFault? settings.identity
  | metricsNumber => metricsFault? settings.metrics

variable
    {settings : Settings}
    {condition : Condition}
    {invalidity : Invalidity}

/-- A check passes exactly if its condition holds. -/
theorem fault?_eq_none_iff :
    condition.fault? settings = none ↔ condition.Holds settings := by
  cases condition with
  | serverNumber => simp [fault?, Holds, serverFault?]
  | resolverGiven => simp [fault?, Holds, Alphabet.isBlankText]
  | resolverReadable =>
      simp only [fault?, Holds]
      cases ResolverAddress.parse settings.resolver.address <;> simp
  | timeout => simp [fault?, Holds]
  | identityFiles =>
      simp only [fault?, Holds, identityFault?]
      cases settings.identity.certificateFile <;> cases settings.identity.keyFile <;> simp
  | metricsNumber => simp [fault?, Holds, metricsFault?]

/-- A check that fails says what is reported of its condition. -/
theorem fault?_eq_some_iff :
    condition.fault? settings = some invalidity ↔
      ¬condition.Holds settings ∧ condition.Reports settings invalidity := by
  constructor
  · intro fails
    refine ⟨fun holds => ?_, ?_⟩
    · rw [fault?_eq_none_iff.mpr holds] at fails
      cases fails
    · cases condition with
      | serverNumber =>
          simp only [fault?, serverFault?, Option.ite_none_right_eq_some,
            Option.some.injEq] at fails
          rw [← fails.2]
          exact .serverNumber
      | resolverGiven =>
          simp only [fault?, Option.ite_none_right_eq_some, Option.some.injEq] at fails
          rw [← fails.2]
          exact .resolverGiven
      | resolverReadable =>
          simp only [fault?] at fails
          split at fails
          · cases fails
            exact .resolverReadable ‹_›
          · cases fails
      | timeout =>
          simp only [fault?, Option.ite_none_right_eq_some, Option.some.injEq] at fails
          rw [← fails.2]
          exact .timeout
      | identityFiles =>
          simp only [fault?, identityFault?] at fails
          split at fails
          · cases fails
            exact .noKeyFile ‹_›
          · cases fails
            exact .noCertificateFile ‹_›
          · cases fails
      | metricsNumber =>
          simp only [fault?, metricsFault?, Option.ite_none_right_eq_some,
            Option.some.injEq] at fails
          rw [← fails.2]
          exact .metricsNumber
  · rintro ⟨misses, reports⟩
    cases reports with
    | serverNumber => simpa [Holds, fault?, serverFault?] using misses
    | resolverGiven => simpa [Holds, fault?, Alphabet.isBlankText] using misses
    | resolverReadable unread => simp [fault?, unread]
    | timeout => simpa [Holds, fault?] using misses
    | noKeyFile certificateFile =>
        have unset : settings.identity.keyFile = none := by
          simpa [Holds, certificateFile] using misses
        simp [fault?, identityFault?, certificateFile, unset]
    | noCertificateFile keyFile =>
        have unset : settings.identity.certificateFile = none := by
          simpa [Holds, keyFile] using misses
        simp [fault?, identityFault?, keyFile, unset]
    | metricsNumber => simpa [Holds, fault?, metricsFault?] using misses

end Condition

/-- The check of the resolver section is those of its three conditions in order. -/
theorem resolverFault?_eq_or
    (settings : Settings) :
    resolverFault? settings.resolver =
      (Condition.resolverGiven.fault? settings).or
        ((Condition.resolverReadable.fault? settings).or
          (Condition.timeout.fault? settings)) := by
  simp only [resolverFault?, ResolverSettings.resolver, Condition.fault?]
  split
  · rfl
  · cases ResolverAddress.parse settings.resolver.address <;> rfl

/-- The checks of the sections are those of the conditions in order. -/
theorem fault?_eq_findSome?
    (settings : Settings) :
    settings.fault? = Condition.inOrder.findSome? (Condition.fault? settings) := by
  have first (condition : Condition) (others : List Condition) :
      (condition :: others).findSome? (Condition.fault? settings) =
        (condition.fault? settings).or (others.findSome? (Condition.fault? settings)) := by
    rw [List.findSome?_cons]
    cases condition.fault? settings <;> rfl
  rw [fault?, resolverFault?_eq_or, Option.or_assoc, Option.or_assoc]
  simp only [Condition.inOrder, first, List.findSome?_nil, Option.or_none]
  rfl

variable
    {settings : Settings}

theorem validate_eq_ok_iff_fault? :
    settings.validate = .ok () ↔ settings.fault? = none := by
  unfold validate
  cases settings.fault? <;> simp

theorem validate_eq_error_iff_fault?
    {invalidity : Invalidity} :
    settings.validate = .error invalidity ↔ settings.fault? = some invalidity := by
  unfold validate
  cases settings.fault? <;> simp

/-- Settings are accepted exactly if they meet every condition. -/
theorem validate_eq_ok_iff :
    settings.validate = .ok () ↔ ∀ condition : Condition, condition.Holds settings := by
  rw [validate_eq_ok_iff_fault?, fault?_eq_findSome?, List.findSome?_eq_none_iff]
  simp only [Condition.fault?_eq_none_iff]
  constructor
  · intro holds condition
    exact holds condition (by cases condition <;> simp [Condition.inOrder])
  · intro holds condition _
    exact holds condition

example : standard.validate = .ok () := by
  decide +kernel

/-- The fault that is reported is that of the first condition that settings miss. -/
theorem validate_eq_error_iff
    {invalidity : Invalidity} :
    settings.validate = .error invalidity ↔
      ∃ before condition after, Condition.inOrder = before ++ condition :: after ∧
        (∀ earlier ∈ before, earlier.Holds settings) ∧ ¬condition.Holds settings ∧
        condition.Reports settings invalidity := by
  rw [validate_eq_error_iff_fault?, fault?_eq_findSome?, List.findSome?_eq_some_iff]
  simp only [Condition.fault?_eq_none_iff, Condition.fault?_eq_some_iff]
  constructor
  · rintro ⟨before, condition, after, split, ⟨misses, reports⟩, holds⟩
    exact ⟨before, condition, after, split, holds, misses, reports⟩
  · rintro ⟨before, condition, after, split, holds, misses, reports⟩
    exact ⟨before, condition, after, split, ⟨misses, reports⟩, holds⟩

/-- Settings that are loaded and accepted are the loaded ones, and meet every condition. -/
theorem loadValid_eq_ok_iff
    {files : Files}
    {path : Option String}
    {overrides : Overrides} :
    loadValid files path overrides = .ok settings ↔
      load files path overrides = .ok settings ∧ settings.validate = .ok () := by
  rw [validate_eq_ok_iff_fault?]
  unfold loadValid
  cases load files path overrides with
  | error fault => simp
  | ok loaded =>
      simp only [Except.ok.injEq]
      cases faulty : loaded.fault? with
      | none =>
          constructor
          · intro same
            cases same
            exact ⟨rfl, faulty⟩
          · rintro ⟨same, -⟩
            rw [same]
      | some invalidity =>
          constructor
          · intro same
            cases same
          · rintro ⟨rfl, valid⟩
            rw [faulty] at valid
            cases valid

end Settings

namespace Identity

variable
    {files : Files}
    {settings : IdentitySettings}

/-- Files that are set are read. -/
theorem load_of_files
    {certificatePath keyPath : String}
    (certificateFile : settings.certificateFile = some certificatePath)
    (keyFile : settings.keyFile = some keyPath) :
    load files settings = (readCredentials files certificatePath keyPath).map .loaded := by
  simp only [load, certificateFile, keyFile]

/-- An identity is generated unless both files are set. -/
theorem load_eq_generated_iff :
    load files settings = .ok .generated ↔
      settings.certificateFile = none ∨ settings.keyFile = none := by
  unfold load
  cases settings.certificateFile with
  | none => simp
  | some certificatePath =>
      cases settings.keyFile with
      | none => simp
      | some keyPath =>
          cases credentials : readCredentials files certificatePath keyPath <;>
            simp [credentials, Except.map]

/-- Of files that are set together or not at all, none is set exactly if one is generated. -/
theorem load_eq_generated_iff_isSelfSigned
    (paired : settings.certificateFile = none ↔ settings.keyFile = none) :
    load files settings = .ok .generated ↔ settings.isSelfSigned = true := by
  rw [load_eq_generated_iff, IdentitySettings.isSelfSigned, Bool.and_eq_true,
    Option.isNone_iff_eq_none, Option.isNone_iff_eq_none, paired, or_self, and_self]

/-- Of files that are set together or not at all, both are set unless an identity is generated. -/
theorem files_of_not_isSelfSigned
    (paired : settings.certificateFile = none ↔ settings.keyFile = none)
    (given : settings.isSelfSigned = false) :
    ∃ certificatePath keyPath,
      settings.certificateFile = some certificatePath ∧ settings.keyFile = some keyPath := by
  unfold IdentitySettings.isSelfSigned at given
  cases certificateFile : settings.certificateFile with
  | none =>
      rw [certificateFile, paired.mp certificateFile] at given
      cases given
  | some certificatePath =>
      cases keyFile : settings.keyFile with
      | none =>
          rw [paired.mpr keyFile] at certificateFile
          cases certificateFile
      | some keyPath => exact ⟨certificatePath, keyPath, rfl, rfl⟩

end Identity

namespace Gateway

/-- What services forward of a stream is the query that it asks, to their resolver. -/
theorem Services.mem_forward_iff_of_relay
    {σ : Type}
    {services : Services}
    {sockets : Exchange.Sockets σ}
    {stream : ClientStream}
    {before : σ}
    {transcript : Transcript}
    (relayed : ((services.relay sockets stream).run before).1 = some transcript)
    (target : ResolverAddress)
    (message : Dns.Message) :
    .forward target message ∈ transcript.events ↔
      target = services.handler.resolver ∧
        ∃ query, services.handler.Asks stream query ∧ message = query.withId 0 := by
  rcases Services.exists_handle_of_relay relayed with ⟨reply, rfl⟩
  exact (services.handler.course_handle (fun _ _ => reply) stream).mem_forward_iff target message

/-- Services are wired to the resolver that settings name and with their timeout. -/
theorem Services.wire_of_resolver
    {settings : Settings}
    {resolver : ResolverAddress}
    (reads : ResolverAddress.parse settings.resolver.address = .ok resolver) :
    Services.wire settings =
      .ok { handler := { resolver := resolver }, timeout := settings.resolver.timeout } := by
  simp only [Services.wire, ResolverSettings.resolver, reads]

/--
Settings are accepted exactly if they meet every condition, and otherwise the
first one that they miss is reported.  Settings that were loaded and accepted
can be wired, to the resolver that was checked.  Each query of a stream is
forwarded to it, and nothing is forwarded to another one; octets that are not
rejected are followed by an exchange with it; waiting for it is not cut off at
once; and an identity is generated only for settings without files.
-/
theorem accepts_exactly_what_can_be_wired :
    (∀ settings : Settings,
      (settings.validate = .ok () ↔
        ∀ condition : Settings.Condition, condition.Holds settings) ∧
      ∀ invalidity, settings.validate = .error invalidity ↔
        ∃ before condition after, Settings.Condition.inOrder = before ++ condition :: after ∧
          (∀ earlier ∈ before, earlier.Holds settings) ∧ ¬condition.Holds settings ∧
          condition.Reports settings invalidity) ∧
    ∀ (files : Files) (path : Option String) (overrides : Overrides) (settings : Settings),
      Settings.loadValid files path overrides = .ok settings →
        (∃ services resolver, Services.wire settings = .ok services ∧
          ResolverAddress.parse settings.resolver.address = .ok resolver ∧
          services.handler.resolver = resolver ∧
          (∀ (σ : Type) (sockets : Exchange.Sockets σ) (stream : ClientStream) (before : σ)
              (transcript : Transcript),
            ((services.relay sockets stream).run before).1 = some transcript →
            ∀ target message, .forward target message ∈ transcript.events ↔
              target = resolver ∧
                ∃ query, services.handler.Asks stream query ∧ message = query.withId 0) ∧
          (∀ (outcomes : Exchange.Outcomes) (octets : Octets) (message : Dns.Message),
            ¬services.handler.Rejects octets → Dns.Codec.wire.decode octets = some message →
            ∃ result, outcomes.Course .wire settings.resolver.timeout resolver
              (message.withId 0) (services.operations outcomes octets) result) ∧
          services.timeout = settings.resolver.timeout ∧
          ∀ milliseconds, services.timeout = some milliseconds → 1 ≤ milliseconds) ∧
        ∀ present : Files,
          (Identity.load present settings.identity = .ok .generated ↔
            settings.identity.isSelfSigned = true) ∧
          (settings.identity.isSelfSigned = false →
            ∃ certificatePath keyPath,
              settings.identity.certificateFile = some certificatePath ∧
              settings.identity.keyFile = some keyPath ∧
              Identity.load present settings.identity =
                (Identity.readCredentials present certificatePath keyPath).map .loaded) := by
  refine ⟨fun settings => ⟨Settings.validate_eq_ok_iff,
    fun invalidity => Settings.validate_eq_error_iff⟩, ?_⟩
  intro files path overrides settings loaded
  have valid := Settings.validate_eq_ok_iff.mp (Settings.loadValid_eq_ok_iff.mp loaded).2
  constructor
  · rcases valid .resolverReadable with ⟨resolver, reads⟩
    refine ⟨_, resolver, Services.wire_of_resolver reads, reads, rfl, ?_, ?_, rfl, ?_⟩
    · intro σ sockets stream before transcript relayed
      exact Services.mem_forward_iff_of_relay relayed
    · intro outcomes octets message accepted decoded
      rcases Services.exists_course_of_accepted outcomes accepted decoded with
        ⟨result, course, -⟩
      exact ⟨result, course⟩
    · intro milliseconds waits
      have nonzero : milliseconds ≠ 0 := by
        rintro rfl
        exact valid .timeout waits
      exact UInt64.pos_iff_ne_zero.mpr nonzero
  · intro present
    refine ⟨Identity.load_eq_generated_iff_isSelfSigned (valid .identityFiles), fun given => ?_⟩
    rcases Identity.files_of_not_isSelfSigned (valid .identityFiles) given with
      ⟨certificatePath, keyPath, certificateFile, keyFile⟩
    exact ⟨certificatePath, keyPath, certificateFile, keyFile,
      Identity.load_of_files certificateFile keyFile⟩

/--
With the defaults queries go to the standard resolver, and files that the command line sets
are read even where there are none.
-/
theorem accepts_exactly_what_can_be_wired_of_files :
    let settings : Settings := { identity := ⟨some "chain.pem", some "key.pem"⟩ }
    Settings.loadValid ⟨[]⟩ none
        { certificateFile := some "chain.pem", keyFile := some "key.pem" } = .ok settings ∧
    (∃ services, Services.wire settings = .ok services ∧
      services.handler.resolver = .literal (.v4 ⟨1, 1, 1, 1⟩ 53)) ∧
    Identity.load ⟨[]⟩ settings.identity ≠ .ok .generated := by
  intro settings
  have accepted :
      Settings.loadValid ⟨[]⟩ none
          { certificateFile := some "chain.pem", keyFile := some "key.pem" } = .ok settings := by
    decide +kernel
  have standard : ResolverAddress.parse settings.resolver.address =
      .ok (.literal (.v4 ⟨1, 1, 1, 1⟩ 53)) := by
    decide +kernel
  rcases accepts_exactly_what_can_be_wired.2 _ _ _ _ accepted with
    ⟨⟨services, resolver, wired, reads, same, -⟩, identity⟩
  cases reads.symm.trans standard
  refine ⟨accepted, ⟨services, wired, same⟩, fun generated => ?_⟩
  exact absurd ((identity ⟨[]⟩).1.mp generated) (by decide)

end Gateway

end DnsOverQuic
