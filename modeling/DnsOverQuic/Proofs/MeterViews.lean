import DnsOverQuic.Proofs.CounterTexts

/-!
# What meters show

Meters are created and copied, count and are read, in any order.  A journal notes which
creation each of them goes back to and what was recorded under it.  The cells follow
the journal: every creation has three cells of its own, one for each counter, and all
meters that go back to it have them.  So every meter shows the journal's counts in each
of its views, and a call changes no view of a meter of another creation.
-/

namespace DnsOverQuic.Gateway

open Exposition

/-! ## The journal -/

/--
What there is to know of calls: how many meters were created, which creation each
meter goes back to, and what was recorded under each creation.
-/
structure Journal where
  created : Nat := 0
  origins : List Nat := []
  recorded : List (Nat × Counter) := []

namespace Journal

/-- Note a call. -/
def enter
    (journal : Journal) :
    Call → Journal
  | .create =>
      { journal with
        created := journal.created + 1
        origins := journal.origins ++ [journal.created] }
  | .copy index =>
      { journal with origins := journal.origins ++ journal.origins[index]?.toList }
  | .record index counter =>
      { journal with
        recorded := journal.recorded ++
          (journal.origins[index]?.map (fun origin => (origin, counter))).toList }
  | .read _ _ => journal

/-- The journal of calls. -/
def of
    (calls : List Call) :
    Journal :=
  calls.foldl enter {}

/-- How often a counter was recorded under a creation. -/
def count
    (journal : Journal)
    (origin : Nat)
    (counter : Counter) :
    Nat :=
  journal.recorded.count (origin, counter)

theorem count_enter_record
    {journal : Journal}
    {index through : Nat}
    (found : journal.origins[index]? = some through)
    (recorded : Counter)
    (origin : Nat)
    (counter : Counter) :
    (journal.enter (.record index recorded)).count origin counter =
      journal.count origin counter +
        if (through, recorded) = (origin, counter) then 1 else 0 := by
  simp [enter, count, found, List.count_append, List.count_singleton]

end Journal

/-! ## The cells of a meter -/

/-- The place of a counter among the cells of a meter. -/
def Counter.offset :
    Counter → Nat
  | queries => 0
  | validQueries => 1
  | resolverFailures => 2

theorem Counter.offset_lt
    (counter : Counter) :
    counter.offset < 3 := by
  cases counter <;> decide

theorem Counter.offset_inj
    {counter counter' : Counter}
    (same : counter.offset = counter'.offset) :
    counter = counter' := by
  cases counter <;> cases counter' <;> first | rfl | cases same

/-- The cell of a counter of a meter that is the given one in the order of creation. -/
def cellOf
    (origin : Nat)
    (counter : Counter) :
    Nat :=
  3 * origin + counter.offset

theorem cellOf_inj
    {origin origin' : Nat}
    {counter counter' : Counter} :
    cellOf origin counter = cellOf origin' counter' ↔
      (origin, counter) = (origin', counter') := by
  constructor
  · intro same
    have inside := counter.offset_lt
    have inside' := counter'.offset_lt
    unfold cellOf at same
    have sameOrigin : origin = origin' := by
      omega
    have sameOffset : counter.offset = counter'.offset := by
      omega
    rw [sameOrigin, Counter.offset_inj sameOffset]
  · intro same
    cases same
    rfl

theorem cellOf_lt
    {origin created : Nat}
    (below : origin < created)
    (counter : Counter) :
    cellOf origin counter < 3 * created := by
  have inside := counter.offset_lt
  unfold cellOf
  omega

/-- The tally of a counter of a creation. -/
def Tally.wired
    (origin : Nat)
    (counter : Counter) :
    Tally :=
  ⟨counter.sampleName, counter.description, cellOf origin counter⟩

/-- The meter of a creation. -/
def Meter.wired
    (origin : Nat) :
    Meter where
  queries := .wired origin .queries
  validQueries := .wired origin .validQueries
  resolverFailures := .wired origin .resolverFailures
  registry := [.queries, .validQueries, .resolverFailures].map (Tally.wired origin)

theorem Registry.run_enter
    {registry : Registry}
    {tally : Tally}
    (fresh : ∀ entered ∈ registry, entered.name ≠ tally.name)
    (cells : Cells) :
    (registry.enter tally).run cells = some (registry ++ [tally], cells) := by
  have free : registry.any (fun entered => entered.name == tally.name) = false := by
    simpa [List.any_eq_false] using fresh
  rw [enter, free]
  rfl

namespace Meter

theorem run_makeTally
    (counter : Counter)
    (cells : Cells) :
    (makeTally counter).run cells =
      some (⟨counter.sampleName, counter.description, cells.length⟩, cells ++ [0]) := by
  cases counter <;> rfl

/-- Creating a meter succeeds, and makes three cells. -/
theorem run_create
    {cells : Cells}
    {origin : Nat}
    (size : cells.length = 3 * origin) :
    create.run cells = some (wired origin, cells ++ [0, 0, 0]) := by
  simp only [create, StateT.run_bind, run_makeTally, Option.bind_eq_bind, Option.bind_some]
  rw [Registry.run_enter (by simp), Option.bind_some,
    Registry.run_enter (by simp [Counter.sampleName]), Option.bind_some,
    Registry.run_enter (by simp [Counter.sampleName]), Option.bind_some]
  simp [wired, Tally.wired, cellOf, Counter.offset, size]

@[simp]
theorem tally_wired
    (origin : Nat)
    (counter : Counter) :
    (wired origin).tally counter = .wired origin counter := by
  cases counter <;> rfl

end Meter

/-! ## The cells follow the journal -/

namespace Meters

/-- Meters are as a journal has them: wired to their creations, whose cells have the counts. -/
structure Follows
    (state : Meters)
    (journal : Journal) : Prop where
  meters : state.meters = journal.origins.map Meter.wired
  size : state.cells.length = 3 * journal.created
  known : ∀ origin ∈ journal.origins, origin < journal.created
  attributed : ∀ entry ∈ journal.recorded, entry.1 < journal.created
  counts :
    ∀ origin counter, origin < journal.created →
      state.cells[cellOf origin counter]? = some (UInt64.ofNat (journal.count origin counter))

namespace Follows

variable
    {state : Meters}
    {journal : Journal}

theorem empty :
    Follows {} {} where
  meters := rfl
  size := rfl
  known _ member := absurd member List.not_mem_nil
  attributed _ member := absurd member List.not_mem_nil
  counts _ _ below := absurd below (Nat.not_lt_zero _)

theorem getElem?_meters
    (follows : state.Follows journal)
    (index : Nat) :
    state.meters[index]? = journal.origins[index]?.map Meter.wired := by
  rw [follows.meters, List.getElem?_map]

/-- Nothing is recorded under a creation before it. -/
theorem count_created
    (follows : state.Follows journal)
    (counter : Counter) :
    journal.count journal.created counter = 0 := by
  rw [Journal.count, List.count_eq_zero]
  intro member
  exact Nat.lt_irrefl _ (follows.attributed _ member)

theorem created
    (follows : state.Follows journal) :
    Follows ⟨state.cells ++ [0, 0, 0], state.meters ++ [.wired journal.created]⟩
      (journal.enter .create) where
  meters := by
    simp [Journal.enter, follows.meters]
  size := by
    simp [Journal.enter, follows.size, Nat.mul_add]
  known := by
    intro origin member
    rcases List.mem_append.mp member with before | now
    · exact Nat.lt_succ_of_lt (follows.known origin before)
    · rw [List.mem_singleton.mp now]
      exact Nat.lt_succ_self _
  attributed := by
    intro entry member
    exact Nat.lt_succ_of_lt (follows.attributed entry member)
  counts := by
    intro origin counter below
    rcases Nat.lt_succ_iff_lt_or_eq.mp below with before | now
    · have inside : cellOf origin counter < state.cells.length :=
        follows.size ▸ cellOf_lt before counter
      rw [List.getElem?_append_left inside]
      exact follows.counts origin counter before
    · subst now
      have nothing : (journal.enter .create).count journal.created counter = 0 :=
        follows.count_created counter
      have place : cellOf journal.created counter = state.cells.length + counter.offset := by
        rw [follows.size, cellOf]
      rw [place, List.getElem?_append_right (Nat.le_add_right _ _), Nat.add_sub_cancel_left,
        nothing]
      cases counter <;> rfl

theorem copied
    (follows : state.Follows journal)
    {index origin : Nat}
    (found : journal.origins[index]? = some origin) :
    Follows { state with meters := state.meters ++ [.wired origin] }
      (journal.enter (.copy index)) where
  meters := by
    simp [Journal.enter, follows.meters, found]
  size := follows.size
  known := by
    intro origin' member
    simp only [Journal.enter, found, Option.toList_some, List.mem_append] at member
    rcases member with before | now
    · exact follows.known origin' before
    · rw [List.mem_singleton.mp now]
      exact follows.known origin (List.mem_of_getElem? found)
  attributed := follows.attributed
  counts := follows.counts

theorem recorded
    (follows : state.Follows journal)
    {index origin : Nat}
    (found : journal.origins[index]? = some origin)
    (counter : Counter) :
    Follows { state with cells := (Meter.wired origin).record counter state.cells }
      (journal.enter (.record index counter)) where
  meters := follows.meters
  size := by
    simpa [Meter.record, Tally.increment, Journal.enter] using follows.size
  known := follows.known
  attributed := by
    intro entry member
    simp only [Journal.enter, found, Option.map_some, Option.toList_some,
      List.mem_append] at member
    rcases member with before | now
    · exact follows.attributed entry before
    · rw [List.mem_singleton.mp now]
      exact follows.known origin (List.mem_of_getElem? found)
  counts := by
    intro origin' counter' below
    rw [Journal.count_enter_record found, Meter.record, Meter.tally_wired, Tally.increment,
      Tally.wired, List.getElem?_modify, follows.counts origin' counter' below]
    by_cases same : (origin, counter) = (origin', counter')
    · simp [same, cellOf_inj]
    · simp [same, cellOf_inj]

/-- What follows a journal still does after a call. -/
theorem call
    (follows : state.Follows journal)
    (encoders : Encoders)
    (next : Call) :
    Follows (state.call encoders next).1 (journal.enter next) := by
  cases next with
  | create =>
      simp only [Meters.call, Meter.run_create follows.size]
      exact follows.created
  | copy index =>
      simp only [Meters.call, follows.getElem?_meters]
      cases found : journal.origins[index]? with
      | none => simpa [Journal.enter, found] using follows
      | some origin => exact follows.copied found
  | record index counter =>
      simp only [Meters.call, follows.getElem?_meters]
      cases found : journal.origins[index]? with
      | none => simpa [Journal.enter, found] using follows
      | some origin => exact follows.recorded found counter
  | read index view => exact follows

/-- The meters after any calls follow the journal of the calls. -/
theorem after
    (encoders : Encoders)
    (calls : List Call) :
    Follows (Meters.after encoders calls) (Journal.of calls) := by
  have run
      {state : Meters}
      {journal : Journal}
      (follows : state.Follows journal) :
      Follows (calls.foldl (fun state next => (state.call encoders next).1) state)
        (calls.foldl Journal.enter journal) := by
    induction calls generalizing state journal with
    | nil => exact follows
    | cons next rest ih => exact ih (follows.call encoders next)
  exact run empty

end Follows

end Meters

/-! ## What is read -/

/-- What is read of counters, by whatever meter. -/
def View.reading
    (encoders : Encoders)
    (counters : Counters) :
    View → Reading
  | snapshot => .snapshot counters
  | exposition => .exposition (encoders.exposition (families counters))
  | page method target =>
      .page (Routes.respond (.of encoders (families counters) counters) method target)

/-- The counters of a creation, which wrap around. -/
def Journal.counters
    (journal : Journal)
    (origin : Nat) :
    Counters where
  queries := .ofNat (journal.count origin .queries)
  validQueries := .ofNat (journal.count origin .validQueries)
  resolverFailures := .ofNat (journal.count origin .resolverFailures)

theorem Journal.get_counters
    (journal : Journal)
    (origin : Nat)
    (counter : Counter) :
    (journal.counters origin).get counter = .ofNat (journal.count origin counter) := by
  cases counter <;> rfl

/-- The registry of a meter gives the families of its counters in alphabetical order. -/
theorem Meter.gather_wired
    (origin : Nat)
    (cells : Cells) :
    (wired origin).registry.gather cells = families ((wired origin).snapshot cells) := by
  have first :
      Counter.queries.sampleName.toList < Counter.resolverFailures.sampleName.toList := by
    decide
  have last :
      ¬Counter.validQueries.sampleName.toList < Counter.resolverFailures.sampleName.toList := by
    decide
  simp only [Registry.gather, wired, Tally.family, Tally.wired, List.map_cons, List.map_nil,
    List.foldr_cons, List.foldr_nil, Registry.insert, first, last, if_true, if_false]
  rfl

theorem Meter.read_wired
    (encoders : Encoders)
    (origin : Nat)
    (cells : Cells)
    (view : View) :
    (wired origin).read encoders cells view =
      view.reading encoders ((wired origin).snapshot cells) := by
  cases view with
  | snapshot => rfl
  | exposition => rw [read, texts, gather_wired]; rfl
  | page method target => rw [read, texts, gather_wired]; rfl

namespace Meters.Follows

variable
    {state : Meters}
    {journal : Journal}
    {index origin : Nat}

theorem snapshot_wired
    (follows : state.Follows journal)
    (created : origin < journal.created) :
    (Meter.wired origin).snapshot state.cells = journal.counters origin := by
  have read
      (counter : Counter) :
      (Tally.wired origin counter).read state.cells = .ofNat (journal.count origin counter) := by
    rw [Tally.read, Tally.wired, List.getD_eq_getElem?_getD,
      follows.counts origin counter created, Option.getD_some]
  rw [Meter.snapshot, Meter.wired, Journal.counters, read, read, read]

/-- Every meter shows the counters of its creation. -/
theorem reads
    (follows : state.Follows journal)
    (found : journal.origins[index]? = some origin)
    (encoders : Encoders)
    (view : View) :
    (state.call encoders (.read index view)).2 =
      some (view.reading encoders (journal.counters origin)) := by
  have created := follows.known origin (List.mem_of_getElem? found)
  simp only [Meters.call, follows.getElem?_meters, found, Option.map_some]
  rw [Meter.read_wired, follows.snapshot_wired created]

end Meters.Follows

/-! ## The views agree -/

theorem Counter.isName_sampleName
    (counter : Counter) :
    Tally.isName counter.sampleName = true := by
  cases counter <;> decide

theorem Counter.isWord_memberName
    (counter : Counter) :
    isWord counter.memberName = true := by
  cases counter <;> decide

/-- The counters have proper names, and no two have the same. -/
theorem registered_families
    (counters : Counters) :
    Registered (families counters) where
  nonempty := List.cons_ne_nil _ _
  named := by
    intro family member
    rcases List.mem_map.mp member with ⟨counter, -, rfl⟩
    exact counter.isName_sampleName
  distinct := by
    change ([.queries, .resolverFailures, .validQueries].map Counter.sampleName).Nodup
    decide

theorem mem_families
    (counters : Counters)
    (counter : Counter) :
    family counters counter ∈ families counters := by
  cases counter <;> simp [families]

theorem isWord_of_mem_members
    {counters : Counters}
    {member : String × UInt64}
    (listed : member ∈ members counters) :
    isWord member.1 = true := by
  rcases List.mem_map.mp listed with ⟨counter, -, rfl⟩
  exact counter.isWord_memberName

/--
What meters show of one of them: its counts, in the snapshot, on one line each of the
exposition text, and as the members of the object.
-/
structure Meters.Shows
    (encoders : Encoders)
    (state : Meters)
    (index : Nat)
    (count : Counter → Nat) : Prop where
  snapshot :
    ∃ counters, (state.call encoders (.read index .snapshot)).2 = some (.snapshot counters) ∧
      counters.queries.toNat = count .queries ∧
      counters.validQueries.toNat = count .validQueries ∧
      counters.resolverFailures.toNat = count .resolverFailures
  exposition :
    ∃ text, (state.call encoders (.read index .exposition)).2 =
        some (.exposition (some text)) ∧
      TellsOnce text "doq_queries_total" (count .queries) ∧
      TellsOnce text "doq_valid_queries_total" (count .validQueries) ∧
      TellsOnce text "doq_upstream_errors_total" (count .resolverFailures)
  object :
    ∃ response, (state.call encoders (.read index (.page "GET" "/stats".toList))).2 =
        some (.page response) ∧
      response.status = 200 ∧
      readObject? response.body =
        some [("queries".toList, count .queries),
          ("valid_queries".toList, count .validQueries),
          ("upstream_errors".toList, count .resolverFailures)]

namespace Meters.Follows

variable
    {state : Meters}
    {journal : Journal}
    {index origin : Nat}

theorem shows
    (follows : state.Follows journal)
    {encoders : Encoders}
    (faithful : encoders.Faithful)
    (found : journal.origins[index]? = some origin)
    (small : ∀ counter, journal.count origin counter < doubleLimit) :
    state.Shows encoders index (journal.count origin) := by
  have counted
      (counter : Counter) :
      ((journal.counters origin).get counter).toNat = journal.count origin counter := by
    rw [journal.get_counters]
    exact UInt64.toNat_ofNat_of_lt (Nat.lt_trans (small counter) (by decide))
  constructor
  case snapshot =>
    exact ⟨_, follows.reads found encoders .snapshot, counted .queries, counted .validQueries,
      counted .resolverFailures⟩
  case exposition =>
    rcases faithful.exposition _ (registered_families (journal.counters origin)) with
      ⟨text, written, tells⟩
    have told
        (counter : Counter) :
        TellsOnce text counter.sampleName (journal.count origin counter) := by
      have once := tells _ (mem_families (journal.counters origin) counter)
      rw [family, counted] at once
      exact once (small counter)
    refine ⟨text, ?_, told .queries, told .validQueries, told .resolverFailures⟩
    rw [follows.reads found, View.reading, written]
  case object =>
    refine ⟨_, follows.reads found encoders _, rfl, ?_⟩
    refine (faithful.object (members (journal.counters origin)) (List.cons_ne_nil _ _)
      (fun _ listed => isWord_of_mem_members listed)).trans ?_
    rw [← counted .queries, ← counted .validQueries, ← counted .resolverFailures]
    rfl

end Meters.Follows

/-- A call counts under a creation. -/
def Journal.CountsUnder
    (journal : Journal)
    (origin : Nat)
    (call : Call) : Prop :=
  ∃ index counter, call = .record index counter ∧ journal.origins[index]? = some origin

/-- A call that does not count under a creation leaves its counters as they are. -/
theorem Journal.counters_enter
    {journal : Journal}
    {origin : Nat}
    {call : Call}
    (apart : ¬journal.CountsUnder origin call) :
    (journal.enter call).counters origin = journal.counters origin := by
  cases call with
  | create => rfl
  | copy index => rfl
  | read index view => rfl
  | record index counter =>
      cases found : journal.origins[index]? with
      | none => simp [enter, found]
      | some through =>
          have other : through ≠ origin := by
            rintro rfl
            exact apart ⟨index, counter, rfl, found⟩
          simp [counters, count_enter_record found, other]

/-- A call takes no meter away, and moves none to another creation. -/
theorem Journal.getElem?_origins_enter
    {journal : Journal}
    {index origin : Nat}
    (found : journal.origins[index]? = some origin)
    (call : Call) :
    (journal.enter call).origins[index]? = some origin := by
  have extended
      (others : List Nat) :
      (journal.origins ++ others)[index]? = some origin := by
    rw [List.getElem?_append_left (List.getElem?_eq_some_iff.mp found).1, found]
  cases call with
  | create => exact extended _
  | copy copied => exact extended _
  | read index view => exact found
  | record index counter => exact found

/--
After any calls, a meter shows in each of its views how often each counter was recorded
through the meters that go back to the same creation, as long as a double precision
number can hold it.  Reading changes nothing, and no call changes what is read of the
meter, except to record through a meter that goes back to the same creation.
-/
theorem views_agree
    {encoders : Encoders}
    (faithful : encoders.Faithful)
    (calls : List Call)
    {index origin : Nat}
    (found : (Journal.of calls).origins[index]? = some origin)
    (small : ∀ counter, (Journal.of calls).count origin counter < doubleLimit) :
    (Meters.after encoders calls).Shows encoders index ((Journal.of calls).count origin) ∧
    (∀ reader view,
      Meters.after encoders (calls ++ [.read reader view]) = Meters.after encoders calls) ∧
    ∀ call, ¬(Journal.of calls).CountsUnder origin call →
      ∀ view,
        ((Meters.after encoders (calls ++ [call])).call encoders (.read index view)).2 =
          ((Meters.after encoders calls).call encoders (.read index view)).2 := by
  have follows := Meters.Follows.after encoders calls
  refine ⟨follows.shows faithful found small, ?_, ?_⟩
  · intro reader view
    rw [Meters.after, List.foldl_concat]
    rfl
  · intro call apart view
    have later : (Journal.of (calls ++ [call])) = (Journal.of calls).enter call :=
      List.foldl_concat ..
    have follows' := Meters.Follows.after encoders (calls ++ [call])
    have found' := Journal.getElem?_origins_enter found call
    rw [← later] at found'
    rw [follows'.reads found', follows.reads found, later, Journal.counters_enter apart]

/-- A copy shows what was recorded through the meter, and nothing of another meter. -/
theorem views_agree_of_copy_beside_another :
    let calls : List Call :=
      [.create, .copy 0, .create, .record 0 .queries, .record 1 .queries,
        .record 1 .resolverFailures, .record 2 .validQueries]
    Encoders.standard.Faithful ∧
    (Journal.of calls).origins[1]? = some 0 ∧
    (∀ counter, (Journal.of calls).count 0 counter < doubleLimit) ∧
    (Meters.after .standard calls).Shows .standard 1 (fun
      | .queries => 2
      | .validQueries => 0
      | .resolverFailures => 1) := by
  intro calls
  have found : (Journal.of calls).origins[1]? = some 0 := by
    decide
  have small : ∀ counter, (Journal.of calls).count 0 counter < doubleLimit := by
    intro counter
    cases counter <;> decide
  have counts :
      (Journal.of calls).count 0 = fun
        | .queries => 2
        | .validQueries => 0
        | .resolverFailures => 1 := by
    funext counter
    cases counter <;> decide
  have shown := (views_agree Encoders.standard_faithful calls found small).1
  rw [counts] at shown
  exact ⟨Encoders.standard_faithful, found, small, shown⟩

end DnsOverQuic.Gateway
