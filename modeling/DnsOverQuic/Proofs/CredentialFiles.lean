import DnsOverQuic.Identity.Loading
import DnsOverQuic.Proofs.PemText
import Mathlib.Data.List.Basic

/-!
# Credentials from files

A file is seen as the sequence of its items.  All items of the certificate file
are read, so that each of its certificates is kept, and those of the key file
up to the first private key, so that what follows the key is without effect.

What can be wrong with the two files is put in the order of the checks.  The
first fault that applies is reported, and a fault of the certificate file is
reported without a look at the key file.
-/

namespace DnsOverQuic.Identity

/-! ## Items of files -/

namespace Item

/-- True for the certificates. -/
def isCertificate :
    Item → Bool
  | certificate _ => true
  | _ => false

/-- True for the private keys, in whichever form. -/
def isKey :
    Item → Bool
  | key _ _ => true
  | _ => false

theorem isKey_iff
    {item : Item} :
    item.isKey = true ↔ ∃ form octets, item = key form octets := by
  cases item <;> simp [isKey]

end Item

/-- The items that a path leads to; a directory opens but has nothing that can be read. -/
inductive Holds
    (files : Files)
    (path : String) :
    List Item → Prop where
  | regular
      {octets : List UInt8}
      (found : files.find path = .ok (.regular octets)) :
      Holds files path (Pem.items octets)
  | directory
      (found : files.find path = .ok .directory) :
      Holds files path [.malformed]

/-- The failure of a path that leads nowhere. -/
def unopened
    (path : String)
    (fault : FileFault) :
    Failure :=
  .tls ("cannot open " ++ path ++ ": " ++ fault.text)

section

variable
    {files : Files}
    {path : String}
    {items : List Item}
    {failure : Failure}

theorem itemsOf_eq_ok_iff :
    itemsOf files path = .ok items ↔ Holds files path items := by
  unfold itemsOf
  constructor
  · intro reads
    split at reads
    · cases reads
    · cases reads
      exact .directory ‹_›
    · cases reads
      exact .regular ‹_›
  · rintro (⟨found⟩ | ⟨found⟩)
    · rw [found]
    · rw [found]

theorem itemsOf_eq_error_iff :
    itemsOf files path = .error failure ↔
      ∃ fault, files.find path = .error fault ∧ unopened path fault = failure := by
  unfold itemsOf unopened
  cases files.find path with
  | error fault => simp
  | ok file => cases file <;> simp

/-- A path leads to one sequence of items. -/
theorem Holds.unique
    {others : List Item}
    (holds : Holds files path items)
    (also : Holds files path others) :
    items = others := by
  rw [← itemsOf_eq_ok_iff] at holds also
  exact Except.ok.inj (holds.symm.trans also)

/-- A path to a file with sections leads to their items. -/
theorem Holds.of_document
    (sections : List Pem.Section)
    (isCut : Bool)
    (found : files.find path = .ok (.regular (Pem.textOf (Pem.documentLines sections isCut)))) :
    Holds files path (Pem.documentItems sections isCut) := by
  rw [← Pem.items_document]
  exact .regular found

end

/-! ## The chain -/

section

variable
    {files : Files}
    {path : String}
    {items : List Item}
    {failure : Failure}

/-- The certificates among items are the items that are certificates, in their order. -/
theorem certificates_eq_iff
    {chain : List Octets} :
    certificates items = chain ↔
      items.filter Item.isCertificate = chain.map Item.certificate := by
  have wrapped :
      items.filter Item.isCertificate = (certificates items).map Item.certificate := by
    induction items with
    | nil => rfl
    | cons item items inductive_step =>
        cases item <;>
          simpa [certificates, Item.isCertificate, List.filter_cons] using inductive_step
  rw [wrapped]
  exact (List.map_injective_iff.mpr (fun _ _ => Item.certificate.inj)).eq_iff.symm

theorem certificates_eq_nil_iff :
    certificates items = [] ↔ ∀ item ∈ items, item.isCertificate = false := by
  rw [certificates_eq_iff, List.map_nil, List.filter_eq_nil_iff]
  simp only [Bool.not_eq_true]

theorem readChain_of_error
    (fails : itemsOf files path = .error failure) :
    readChain files path = .error failure := by
  rw [readChain, fails]
  rfl

/-- Of a file that can be opened the chain is all certificates, unless there is a fault or none. -/
theorem readChain_of_items
    (reads : itemsOf files path = .ok items) :
    readChain files path =
      if .malformed ∈ items then
        .error (.tls ("invalid certificate PEM " ++ path ++ ": malformed section"))
      else
        match certificates items with
        | leaf :: others => .ok (leaf, others)
        | [] => .error (.tls ("no certificates found in " ++ path)) := by
  rw [readChain, reads]
  simp only [bind, Except.bind, List.contains_eq_mem, decide_eq_true_eq]
  rfl

/-- A chain is read exactly from items without a fault, as all certificates among them. -/
theorem readChain_eq_ok_iff
    {leaf : Octets}
    {others : List Octets} :
    readChain files path = .ok (leaf, others) ↔
      ∃ items, Holds files path items ∧ .malformed ∉ items ∧
        items.filter Item.isCertificate = (leaf :: others).map .certificate := by
  simp only [← itemsOf_eq_ok_iff, ← certificates_eq_iff]
  cases reads : itemsOf files path with
  | error failure => simp [readChain_of_error reads]
  | ok items =>
      rw [readChain_of_items reads]
      by_cases faulty : .malformed ∈ items
      · simp [faulty]
      · cases found : certificates items <;> simp [faulty, found]

end

/-! ## The key -/

/-- Reading a key file passes over all items before the item. -/
def StopsAt
    (items : List Item)
    (item : Item) :
    Prop :=
  ∃ before after, items = before ++ item :: after ∧
    ∀ passed ∈ before, passed.isKey = false ∧ passed ≠ .malformed

section

variable
    {files : Files}
    {path : String}
    {items : List Item}
    {item : Item}
    {failure : Failure}

theorem decidingItem?_eq_find? :
    decidingItem? items = items.find? (fun item => item.isKey || item == .malformed) := by
  unfold decidingItem?
  congr 1
  funext item
  cases item <;> rfl

theorem decidingItem?_eq_none_iff :
    decidingItem? items = none ↔ ∀ item ∈ items, item.isKey = false ∧ item ≠ .malformed := by
  simp [decidingItem?_eq_find?]

/-- The deciding item is a key or a fault at which reading stops. -/
theorem decidingItem?_eq_some_iff :
    decidingItem? items = some item ↔
      (item.isKey = true ∨ item = .malformed) ∧ StopsAt items item := by
  rw [decidingItem?_eq_find?, List.find?_eq_some_iff_append]
  simp [StopsAt]

/-- Reading a key file comes to its end, or stops at a fault or a key. -/
theorem decidingItem?_cases
    (items : List Item) :
    decidingItem? items = none ∧ (∀ item ∈ items, item.isKey = false) ∨
      decidingItem? items = some .malformed ∨
      ∃ form octets, decidingItem? items = some (.key form octets) ∧ .key form octets ∈ items := by
  cases decides : decidingItem? items with
  | none => exact .inl ⟨rfl, fun item among => (decidingItem?_eq_none_iff.mp decides item among).1⟩
  | some item =>
      rcases decidingItem?_eq_some_iff.mp decides with ⟨key | rfl, before, after, rfl, -⟩
      · rcases Item.isKey_iff.mp key with ⟨form, octets, rfl⟩
        exact .inr (.inr ⟨form, octets, rfl, by simp⟩)
      · exact .inr (.inl rfl)

theorem readKey_of_error
    (fails : itemsOf files path = .error failure) :
    readKey files path = .error failure := by
  rw [readKey, fails]
  rfl

/-- Of a file that can be opened the key is the deciding item, unless that is a fault. -/
theorem readKey_of_items
    (reads : itemsOf files path = .ok items) :
    readKey files path =
      match decidingItem? items with
      | some (.key form octets) => .ok (form, octets)
      | some _ => .error (.tls ("invalid key PEM " ++ path ++ ": malformed section"))
      | none => .error (.tls ("no private key found in " ++ path)) := by
  rw [readKey, reads]
  rfl

/-- A key is read exactly where reading stops at it. -/
theorem readKey_eq_ok_iff
    {form : KeyForm}
    {octets : Octets} :
    readKey files path = .ok (form, octets) ↔
      ∃ items, Holds files path items ∧ StopsAt items (.key form octets) := by
  have decides (items : List Item) :
      StopsAt items (.key form octets) ↔ decidingItem? items = some (.key form octets) := by
    simp [decidingItem?_eq_some_iff, Item.isKey]
  simp only [← itemsOf_eq_ok_iff, decides]
  cases reads : itemsOf files path with
  | error failure => simp [readKey_of_error reads]
  | ok items =>
      rw [readKey_of_items reads]
      rcases decidingItem?_cases items with ⟨ended, -⟩ | faulty | ⟨form, octets, found, -⟩
      · simp [ended]
      · simp [faulty]
      · simp [found]

end

/-! ## Faults -/

/-- What can be wrong with the two files. -/
inductive Fault where
  | certificateFileUnopened
  | certificateFileMalformed
  | noCertificates
  | keyFileUnopened
  | keyFileMalformed
  | noKey
deriving DecidableEq

namespace Fault

/-- The faults of the certificate file in the order of their checks. -/
def ofChain : List Fault :=
  [certificateFileUnopened, certificateFileMalformed, noCertificates]

/-- The faults of the key file in the order of their checks. -/
def ofKey : List Fault :=
  [keyFileUnopened, keyFileMalformed, noKey]

/-- All faults: those of the key file come after those of the certificate file. -/
def inOrder : List Fault :=
  ofChain ++ ofKey

/-- When a fault applies to the files, and the failure that reports it. -/
inductive Reports
    (files : Files)
    (certificatePath keyPath : String) :
    Fault → Failure → Prop where
  | certificateFileUnopened
      {fault : FileFault}
      (nowhere : files.find certificatePath = .error fault) :
      Reports files certificatePath keyPath .certificateFileUnopened
        (unopened certificatePath fault)
  | certificateFileMalformed
      {items : List Item}
      (holds : Holds files certificatePath items)
      (malformed : .malformed ∈ items) :
      Reports files certificatePath keyPath .certificateFileMalformed
        (.tls ("invalid certificate PEM " ++ certificatePath ++ ": malformed section"))
  | noCertificates
      {items : List Item}
      (holds : Holds files certificatePath items)
      (without : ∀ item ∈ items, item.isCertificate = false) :
      Reports files certificatePath keyPath .noCertificates
        (.tls ("no certificates found in " ++ certificatePath))
  | keyFileUnopened
      {fault : FileFault}
      (nowhere : files.find keyPath = .error fault) :
      Reports files certificatePath keyPath .keyFileUnopened
        (unopened keyPath fault)
  | keyFileMalformed
      {items : List Item}
      (holds : Holds files keyPath items)
      (stops : StopsAt items .malformed) :
      Reports files certificatePath keyPath .keyFileMalformed
        (.tls ("invalid key PEM " ++ keyPath ++ ": malformed section"))
  | noKey
      {items : List Item}
      (holds : Holds files keyPath items)
      (without : ∀ item ∈ items, item.isKey = false) :
      Reports files certificatePath keyPath .noKey
        (.tls ("no private key found in " ++ keyPath))

/-- True if a fault is there, whether or not an earlier one is reported. -/
def Applies
    (files : Files)
    (certificatePath keyPath : String)
    (fault : Fault) :
    Prop :=
  ∃ failure, fault.Reports files certificatePath keyPath failure

/-- The check that a file can be opened. -/
def openFault?
    (files : Files)
    (path : String) :
    Option Failure :=
  match itemsOf files path with
  | .ok _ => none
  | .error failure => some failure

/-- A check of the items of a file that can be opened. -/
def itemsFault?
    (files : Files)
    (path : String)
    (wrong : List Item → Bool)
    (failure : Failure) :
    Option Failure :=
  match itemsOf files path with
  | .ok items => if wrong items then some failure else none
  | .error _ => none

/-- The check of one fault. -/
def check?
    (files : Files)
    (certificatePath keyPath : String) :
    Fault → Option Failure
  | certificateFileUnopened => openFault? files certificatePath
  | certificateFileMalformed =>
      itemsFault? files certificatePath (fun items => items.contains .malformed)
        (.tls ("invalid certificate PEM " ++ certificatePath ++ ": malformed section"))
  | noCertificates =>
      itemsFault? files certificatePath (fun items => (certificates items).isEmpty)
        (.tls ("no certificates found in " ++ certificatePath))
  | keyFileUnopened => openFault? files keyPath
  | keyFileMalformed =>
      itemsFault? files keyPath (fun items => decidingItem? items = some .malformed)
        (.tls ("invalid key PEM " ++ keyPath ++ ": malformed section"))
  | noKey =>
      itemsFault? files keyPath (fun items => items.all (!·.isKey))
        (.tls ("no private key found in " ++ keyPath))

section

variable
    {files : Files}
    {path : String}
    {failure : Failure}

theorem openFault?_eq_some_iff :
    openFault? files path = some failure ↔
      ∃ fault, files.find path = .error fault ∧ unopened path fault = failure := by
  rw [← itemsOf_eq_error_iff]
  unfold openFault?
  cases itemsOf files path <;> simp

theorem itemsFault?_eq_some_iff
    {wrong : List Item → Bool}
    {reported : Failure} :
    itemsFault? files path wrong reported = some failure ↔
      ∃ items, Holds files path items ∧ wrong items = true ∧ reported = failure := by
  simp only [← itemsOf_eq_ok_iff]
  unfold itemsFault?
  cases itemsOf files path <;> simp

end

section

variable
    {files : Files}
    {certificatePath keyPath : String}
    {fault : Fault}
    {failure : Failure}

/-- What reports a fault is what its check fails with. -/
theorem check?_of_reports
    (reports : fault.Reports files certificatePath keyPath failure) :
    fault.check? files certificatePath keyPath = some failure := by
  cases reports with
  | certificateFileUnopened nowhere =>
      exact openFault?_eq_some_iff.mpr ⟨_, nowhere, rfl⟩
  | certificateFileMalformed holds malformed =>
      exact itemsFault?_eq_some_iff.mpr ⟨_, holds, List.contains_iff_mem.mpr malformed, rfl⟩
  | noCertificates holds without =>
      have empty := List.isEmpty_iff.mpr (certificates_eq_nil_iff.mpr without)
      exact itemsFault?_eq_some_iff.mpr ⟨_, holds, empty, rfl⟩
  | keyFileUnopened nowhere =>
      exact openFault?_eq_some_iff.mpr ⟨_, nowhere, rfl⟩
  | keyFileMalformed holds stops =>
      have decides := decidingItem?_eq_some_iff.mpr ⟨.inr rfl, stops⟩
      exact itemsFault?_eq_some_iff.mpr ⟨_, holds, decide_eq_true decides, rfl⟩
  | noKey holds without =>
      exact itemsFault?_eq_some_iff.mpr ⟨_, holds, by simpa using without, rfl⟩

/-- What a check fails with reports its fault. -/
theorem reports_of_check?
    (fails : fault.check? files certificatePath keyPath = some failure) :
    fault.Reports files certificatePath keyPath failure := by
  cases fault with
  | certificateFileUnopened =>
      rcases openFault?_eq_some_iff.mp fails with ⟨fault, nowhere, rfl⟩
      exact .certificateFileUnopened nowhere
  | certificateFileMalformed =>
      rcases itemsFault?_eq_some_iff.mp fails with ⟨items, holds, malformed, rfl⟩
      exact .certificateFileMalformed holds (List.contains_iff_mem.mp malformed)
  | noCertificates =>
      rcases itemsFault?_eq_some_iff.mp fails with ⟨items, holds, without, rfl⟩
      exact .noCertificates holds (certificates_eq_nil_iff.mp (List.isEmpty_iff.mp without))
  | keyFileUnopened =>
      rcases openFault?_eq_some_iff.mp fails with ⟨fault, nowhere, rfl⟩
      exact .keyFileUnopened nowhere
  | keyFileMalformed =>
      rcases itemsFault?_eq_some_iff.mp fails with ⟨items, holds, decides, rfl⟩
      exact .keyFileMalformed holds (decidingItem?_eq_some_iff.mp (of_decide_eq_true decides)).2
  | noKey =>
      rcases itemsFault?_eq_some_iff.mp fails with ⟨items, holds, without, rfl⟩
      exact .noKey holds (by simpa using without)

theorem check?_eq_some_iff :
    fault.check? files certificatePath keyPath = some failure ↔
      fault.Reports files certificatePath keyPath failure :=
  ⟨reports_of_check?, check?_of_reports⟩

theorem check?_eq_none_iff :
    fault.check? files certificatePath keyPath = none ↔
      ¬fault.Applies files certificatePath keyPath := by
  simp only [Applies, ← check?_eq_some_iff]
  cases fault.check? files certificatePath keyPath <;> simp

end

end Fault

section

variable
    {files : Files}
    {certificatePath keyPath : String}
    {failure : Failure}

/-- Reading a chain fails with the first of its checks that fails. -/
theorem readChain_eq_error_iff
    (keyPath : String) :
    readChain files certificatePath = .error failure ↔
      Fault.ofChain.findSome? (Fault.check? files certificatePath keyPath) = some failure := by
  simp only [Fault.ofChain, Fault.check?, Fault.openFault?, Fault.itemsFault?,
    List.findSome?_cons, List.findSome?_nil]
  cases reads : itemsOf files certificatePath with
  | error failure => simp [readChain_of_error reads]
  | ok items =>
      rw [readChain_of_items reads]
      by_cases faulty : .malformed ∈ items
      · simp [faulty]
      · cases found : certificates items <;> simp [faulty, found]

/-- A chain is read exactly if none of its checks fails. -/
theorem exists_readChain_eq_ok_iff
    (keyPath : String) :
    (∃ chain, readChain files certificatePath = .ok chain) ↔
      Fault.ofChain.findSome? (Fault.check? files certificatePath keyPath) = none := by
  rw [Option.eq_none_iff_forall_ne_some]
  simp only [ne_eq, ← readChain_eq_error_iff]
  cases readChain files certificatePath <;> simp

/-- Reading a key fails with the first of its checks that fails. -/
theorem readKey_eq_error_iff
    (certificatePath : String) :
    readKey files keyPath = .error failure ↔
      Fault.ofKey.findSome? (Fault.check? files certificatePath keyPath) = some failure := by
  simp only [Fault.ofKey, Fault.check?, Fault.openFault?, Fault.itemsFault?,
    List.findSome?_cons, List.findSome?_nil]
  cases reads : itemsOf files keyPath with
  | error failure => simp [readKey_of_error reads]
  | ok items =>
      rw [readKey_of_items reads]
      rcases decidingItem?_cases items with ⟨ended, without⟩ | faulty | ⟨form, octets, found, among⟩
      · have keyless : (items.all (!·.isKey)) = true := by
          simpa using without
        simp [ended, keyless]
      · simp [faulty]
      · have keyed : (items.all (!·.isKey)) = false :=
          List.all_eq_false.mpr ⟨_, among, by simp [Item.isKey]⟩
        simp [found, keyed]

/-- Credentials are read exactly if both the chain and the key are. -/
theorem readCredentials_eq_ok_iff
    {credentials : Credentials} :
    readCredentials files certificatePath keyPath = .ok credentials ↔
      readChain files certificatePath = .ok (credentials.leaf, credentials.others) ∧
      readKey files keyPath = .ok (credentials.keyForm, credentials.key) := by
  unfold readCredentials
  cases readChain files certificatePath with
  | error failure => simp [bind, Except.bind]
  | ok chain =>
      cases readKey files keyPath with
      | error failure => simp [bind, Except.bind]
      | ok key =>
          rcases credentials with ⟨leaf, others, form, octets⟩
          simp [bind, Except.bind, pure, Except.pure, Prod.ext_iff, and_assoc]

/-- A failure is that of the chain, or that of the key behind a chain that is read. -/
theorem readCredentials_eq_error_iff :
    readCredentials files certificatePath keyPath = .error failure ↔
      readChain files certificatePath = .error failure ∨
      (∃ chain, readChain files certificatePath = .ok chain) ∧
        readKey files keyPath = .error failure := by
  unfold readCredentials
  cases readChain files certificatePath with
  | error failure => simp [bind, Except.bind]
  | ok chain => cases readKey files keyPath <;> simp [bind, Except.bind, pure, Except.pure]

/-- Reading credentials fails with the first of all checks that fails. -/
theorem readCredentials_eq_error_iff_findSome? :
    readCredentials files certificatePath keyPath = .error failure ↔
      Fault.inOrder.findSome? (Fault.check? files certificatePath keyPath) = some failure := by
  rw [readCredentials_eq_error_iff, readKey_eq_error_iff certificatePath, Fault.inOrder,
    List.findSome?_append, Option.or_eq_some_iff, ← readChain_eq_error_iff,
    ← exists_readChain_eq_ok_iff]

/-- The failure is that of the first fault that applies. -/
theorem readCredentials_eq_error_iff_first :
    readCredentials files certificatePath keyPath = .error failure ↔
      ∃ before fault after, Fault.inOrder = before ++ fault :: after ∧
        (∀ earlier ∈ before, ¬earlier.Applies files certificatePath keyPath) ∧
        fault.Reports files certificatePath keyPath failure := by
  rw [readCredentials_eq_error_iff_findSome?, List.findSome?_eq_some_iff]
  simp only [Fault.check?_eq_none_iff, Fault.check?_eq_some_iff]
  constructor
  · rintro ⟨before, fault, after, split, reports, absent⟩
    exact ⟨before, fault, after, split, absent, reports⟩
  · rintro ⟨before, fault, after, split, absent, reports⟩
    exact ⟨before, fault, after, split, reports, absent⟩

/-- A chain depends only on what the path leads to. -/
theorem readChain_congr
    {others : Files}
    (same : others.find certificatePath = files.find certificatePath) :
    readChain others certificatePath = readChain files certificatePath := by
  simp only [readChain, itemsOf, same]

/-- A fault of the certificate file is reported whatever the key file is. -/
theorem readCredentials_of_chain_fault
    (faulty : ∃ fault ∈ Fault.ofChain, fault.Applies files certificatePath keyPath) :
    ∃ failure, (∃ fault ∈ Fault.ofChain, fault.Reports files certificatePath keyPath failure) ∧
      ∀ (others : Files) (otherKeyPath : String),
        others.find certificatePath = files.find certificatePath →
        readCredentials others certificatePath otherKeyPath = .error failure := by
  have unread : ¬∃ chain, readChain files certificatePath = .ok chain := by
    rw [exists_readChain_eq_ok_iff keyPath, List.findSome?_eq_none_iff]
    simp only [Fault.check?_eq_none_iff, not_forall, not_not]
    rcases faulty with ⟨fault, among, applies⟩
    exact ⟨fault, among, applies⟩
  cases fails : readChain files certificatePath with
  | ok chain => exact absurd ⟨chain, fails⟩ unread
  | error failure =>
      refine ⟨failure, ?_, fun others otherKeyPath same => ?_⟩
      · have reported := (readChain_eq_error_iff keyPath).mp fails
        rcases List.exists_of_findSome?_eq_some reported with ⟨fault, among, check⟩
        exact ⟨fault, among, Fault.reports_of_check? check⟩
      · exact readCredentials_eq_error_iff.mpr (.inl ((readChain_congr same).trans fails))

end

/-! ## Both files -/

section

variable
    {files : Files}
    {certificatePath keyPath : String}
    {credentials : Credentials}

/-- The credentials are all certificates of the one file with the first key of the other. -/
theorem readCredentials_eq_ok_iff_items :
    readCredentials files certificatePath keyPath = .ok credentials ↔
      (∃ items, Holds files certificatePath items ∧ .malformed ∉ items ∧
        items.filter Item.isCertificate = credentials.chain.map .certificate) ∧
      ∃ items, Holds files keyPath items ∧
        StopsAt items (.key credentials.keyForm credentials.key) := by
  rw [readCredentials_eq_ok_iff, readChain_eq_ok_iff, readKey_eq_ok_iff, Credentials.chain]

/-- There are credentials exactly if there is a chain and a key. -/
theorem exists_readCredentials_eq_ok_iff :
    (∃ credentials, readCredentials files certificatePath keyPath = .ok credentials) ↔
      (∃ items, Holds files certificatePath items ∧ .malformed ∉ items ∧
        ∃ item ∈ items, item.isCertificate = true) ∧
      ∃ items form octets, Holds files keyPath items ∧ StopsAt items (.key form octets) := by
  simp only [readCredentials_eq_ok_iff_items]
  constructor
  · rintro ⟨credentials, ⟨items, holds, sound, kept⟩, others, keyHolds, stops⟩
    refine ⟨⟨items, holds, sound, .certificate credentials.leaf, ?_, rfl⟩,
      others, _, _, keyHolds, stops⟩
    have among : .certificate credentials.leaf ∈ items.filter Item.isCertificate := by
      rw [kept]
      exact List.mem_cons_self
    exact (List.mem_filter.mp among).1
  · rintro ⟨⟨items, holds, sound, item, among, certified⟩, others, form, octets, keyHolds, stops⟩
    cases found : certificates items with
    | nil =>
        rw [certificates_eq_nil_iff.mp found item among] at certified
        cases certified
    | cons leaf rest =>
        exact ⟨⟨leaf, rest, form, octets⟩, ⟨items, holds, sound, certificates_eq_iff.mp found⟩,
          others, keyHolds, stops⟩

/-- Items with a key and without a fault have a first key. -/
theorem exists_stopsAt_key
    {items : List Item}
    (sound : .malformed ∉ items)
    (keyed : ∃ item ∈ items, item.isKey = true) :
    ∃ form octets, StopsAt items (.key form octets) := by
  rcases decidingItem?_cases items with ⟨-, keyless⟩ | faulty | ⟨form, octets, found, -⟩
  · rcases keyed with ⟨item, among, key⟩
    rw [keyless item among] at key
    cases key
  · rcases (decidingItem?_eq_some_iff.mp faulty).2 with ⟨before, after, rfl, -⟩
    simp at sound
  · exact ⟨form, octets, (decidingItem?_eq_some_iff.mp found).2⟩

end

/--
Credentials are read exactly from a certificate file that can be opened and has
a certificate and no fault, and a key file that can be opened and has a key with
no fault before it.  They are all certificates of the one in their order and
the first key of the other.  Otherwise the first fault that applies is
reported, for the certificate file whatever the key file is.  One file with
both may be both.  The items of a file are those of the sections that are
written in it, and may be any in which nothing follows a malformed one.
-/
theorem credentials_keep_every_certificate
    (files : Files)
    (certificatePath keyPath : String) :
    ((∃ credentials, readCredentials files certificatePath keyPath = .ok credentials) ↔
      (∃ items, Holds files certificatePath items ∧ .malformed ∉ items ∧
        ∃ item ∈ items, item.isCertificate = true) ∧
      ∃ items form octets, Holds files keyPath items ∧ StopsAt items (.key form octets)) ∧
    (∀ credentials, readCredentials files certificatePath keyPath = .ok credentials →
      (∀ items, Holds files certificatePath items →
        items.filter Item.isCertificate = credentials.chain.map .certificate) ∧
      credentials.chain.head? = some credentials.leaf ∧
      ∀ items, Holds files keyPath items →
        StopsAt items (.key credentials.keyForm credentials.key)) ∧
    (∀ failure, readCredentials files certificatePath keyPath = .error failure ↔
      ∃ before fault after, Fault.inOrder = before ++ fault :: after ∧
        (∀ earlier ∈ before, ¬earlier.Applies files certificatePath keyPath) ∧
        fault.Reports files certificatePath keyPath failure) ∧
    ((∃ fault ∈ Fault.ofChain, fault.Applies files certificatePath keyPath) →
      ∃ failure,
        (∃ fault ∈ Fault.ofChain, fault.Reports files certificatePath keyPath failure) ∧
        ∀ (others : Files) (otherKeyPath : String),
          others.find certificatePath = files.find certificatePath →
          readCredentials others certificatePath otherKeyPath = .error failure) ∧
    (∀ path items, Holds files path items → .malformed ∉ items →
      (∃ item ∈ items, item.isCertificate = true) → (∃ item ∈ items, item.isKey = true) →
      ∃ credentials, readCredentials files path path = .ok credentials) ∧
    (∀ octets items, Pem.Written (Pem.lines octets) items → Pem.items octets = items) ∧
    ∀ items, (∃ octets, Pem.items octets = items) ↔ .malformed ∉ items.dropLast := by
  refine ⟨exists_readCredentials_eq_ok_iff, fun credentials reads => ⟨?_, rfl, ?_⟩,
    fun failure => readCredentials_eq_error_iff_first, readCredentials_of_chain_fault, ?_,
    fun octets items written => written.readItems_eq, fun items => Pem.exists_items_eq_iff⟩
  · intro items holds
    rcases (readCredentials_eq_ok_iff_items.mp reads).1 with ⟨read, readHolds, -, kept⟩
    rw [holds.unique readHolds]
    exact kept
  · intro items holds
    rcases (readCredentials_eq_ok_iff_items.mp reads).2 with ⟨read, readHolds, stops⟩
    rw [holds.unique readHolds]
    exact stops
  · intro path items holds sound certified keyed
    rcases exists_stopsAt_key sound keyed with ⟨form, octets, stops⟩
    exact exists_readCredentials_eq_ok_iff.mpr
      ⟨⟨items, holds, sound, certified⟩, items, form, octets, holds, stops⟩

/-- Two keys between two certificates. -/
def sampleSections : List Pem.Section :=
  [⟨"CERTIFICATE", .certificate, [48, 0], by simp [Pem.interpretations]⟩,
    ⟨"PUBLIC KEY", fun _ => .other, [48, 1], by simp [Pem.interpretations]⟩,
    ⟨"EC PRIVATE KEY", .key .sec1, [48, 2], by simp [Pem.interpretations]⟩,
    ⟨"PRIVATE KEY", .key .pkcs8, [48, 3], by simp [Pem.interpretations]⟩,
    ⟨"CERTIFICATE", .certificate, [48, 4], by simp [Pem.interpretations]⟩]

/-- A file with everything, and one that is cut short behind its first certificate. -/
def sampleFiles : Files where
  entries :=
    [("both.pem", .regular (Pem.textOf (Pem.documentLines sampleSections false))),
      ("cut.pem", .regular (Pem.textOf (Pem.documentLines (sampleSections.take 1) true)))]

/--
The file with everything serves as both files with two certificates and the
first of its keys.  The other file is at fault even where there is no key file.
-/
theorem credentials_keep_every_certificate_of_combined_file :
    (∃ credentials, readCredentials sampleFiles "both.pem" "both.pem" = .ok credentials ∧
      credentials.chain = [[48, 0], [48, 4]] ∧
      credentials.keyForm = .sec1 ∧ credentials.key = [48, 2]) ∧
    ∃ failure, readCredentials sampleFiles "cut.pem" "absent.pem" = .error failure ∧
      failure.message =
        "TLS configuration error: invalid certificate PEM cut.pem: malformed section" := by
  have both : Holds sampleFiles "both.pem"
      [.certificate [48, 0], .other, .key .sec1 [48, 2], .key .pkcs8 [48, 3],
        .certificate [48, 4]] :=
    .of_document sampleSections false rfl
  have cut : Holds sampleFiles "cut.pem" [.certificate [48, 0], .malformed] :=
    .of_document (sampleSections.take 1) true rfl
  constructor
  · have keeps := credentials_keep_every_certificate sampleFiles "both.pem" "both.pem"
    rcases keeps.2.2.2.2.1 "both.pem" _ both (by decide) (by decide) (by decide) with
      ⟨credentials, reads⟩
    rcases keeps.2.1 credentials reads with ⟨kept, -, stops⟩
    have chain : credentials.chain = [[48, 0], [48, 4]] :=
      (certificates_eq_iff.mpr (kept _ both)).symm
    have key : .key .sec1 [48, 2] = Item.key credentials.keyForm credentials.key :=
      Option.some.inj (decidingItem?_eq_some_iff.mpr ⟨.inl rfl, stops _ both⟩)
    injection key with form octets
    exact ⟨credentials, reads, chain, form.symm, octets.symm⟩
  · have opened : ¬Fault.certificateFileUnopened.Applies sampleFiles "cut.pem" "absent.pem" := by
      rintro ⟨-, ⟨nowhere⟩⟩
      have fails := itemsOf_eq_error_iff.mpr ⟨_, nowhere, rfl⟩
      rw [itemsOf_eq_ok_iff.mpr cut] at fails
      cases fails
    have keeps := credentials_keep_every_certificate sampleFiles "cut.pem" "absent.pem"
    refine ⟨_, (keeps.2.2.1 _).mpr ⟨[.certificateFileUnopened], .certificateFileMalformed, _, rfl,
      by simpa using opened, .certificateFileMalformed cut (by decide)⟩, by decide +kernel⟩

end DnsOverQuic.Identity
