import DnsOverQuic.Gateway.Sampling
import DnsOverQuic.Proofs.Accounting

/-!
# Snapshots that are taken while streams are handled

The three counts of a snapshot are read at three instants, one after the other.
What is counted between them is in the later counts and not in the earlier ones,
so a snapshot need not be what the counters were at any one instant, and it may
show more valid queries than queries.  It is off by no more than what has been
counted between its reads: if that is nothing, it is the counters of an instant.
-/

namespace DnsOverQuic.Gateway

open Dns

/-! ## What has been counted stays counted -/

namespace Running

variable
    {handler : Handler}
    {forward : Nat → Nat → Forwarder}
    {held : Nat → Nat → Message → Bool}
    {running next : Running}

/-- A step adds to what has happened, and takes nothing away. -/
theorem exists_events_of_step
    {turn : Nat × Actor}
    (stepped : running.step? handler forward held turn = some next) :
    ∃ added, next.events.Perm (added ++ running.events) := by
  rcases turn with ⟨place, actor⟩
  rcases Option.bind_eq_some_iff.mp stepped with ⟨session, found, rest⟩
  cases actor with
  | loop =>
      rcases Option.bind_eq_some_iff.mp rest with ⟨moved, loopStepped, same⟩
      cases same
      have kept : moved.events.Perm ([] ++ session.events) := by
        rw [Session.events_stepLoop loopStepped, List.nil_append]
      refine ⟨[], ?_⟩
      rw [events_eq_flatMap, events_eq_flatMap]
      exact flatMap_set_perm found kept
  | task index =>
      rcases Option.bind_eq_some_iff.mp rest with ⟨⟨event, moved⟩, taskStepped, same⟩
      cases same
      refine ⟨[event], ?_⟩
      rw [events_eq_flatMap, events_eq_flatMap]
      exact flatMap_set_perm found (Session.events_stepTask taskStepped)

theorem exists_events_of_turn
    (turn : Nat × Actor) :
    ∃ added, (running.turn handler forward held turn).events.Perm (added ++ running.events) := by
  cases stepped : running.step? handler forward held turn with
  | none => exact ⟨[], by simp [Running.turn, stepped]⟩
  | some next =>
      rw [Running.turn, stepped]
      exact exists_events_of_step stepped

/-- Turns add to what has happened, and take nothing away. -/
theorem exists_events_of_run
    (schedule : List (Nat × Actor)) :
    ∃ added, (running.run handler forward held schedule).events.Perm (added ++ running.events) := by
  induction schedule generalizing running with
  | nil => exact ⟨[], .refl _⟩
  | cons turn schedule inductive_step =>
      let next := running.turn handler forward held turn
      have now : ∃ added, next.events.Perm (added ++ running.events) :=
        exists_events_of_turn turn
      have rest : ∃ added,
          (next.run handler forward held schedule).events.Perm (added ++ next.events) :=
        inductive_step
      rcases now with ⟨added, now⟩
      rcases rest with ⟨later, rest⟩
      refine ⟨later ++ added, rest.trans ?_⟩
      rw [List.append_assoc]
      exact now.append_left later

/-- Events of any kind become no fewer. -/
theorem countP_le_run
    (schedule : List (Nat × Actor))
    (kind : Event → Bool) :
    running.events.countP kind ≤
      (running.run handler forward held schedule).events.countP kind := by
  have grows : ∃ added,
      (running.run handler forward held schedule).events.Perm (added ++ running.events) :=
    exists_events_of_run schedule
  rcases grows with ⟨added, grown⟩
  rw [grown.countP_eq, List.countP_append]
  exact Nat.le_add_left _ _

/-- With few increments a counter is the number of its events. -/
theorem Agrees.toNat_eq_count
    (agrees : running.Agrees)
    (few : running.increments < 2 ^ 64)
    (counter : Counter) :
    (running.counters.get counter).toNat = running.events.count (.count counter) := by
  rw [agrees.toNat_eq few, events, List.count_flatMap]
  rfl

/-- With few increments up to the later time, no counter goes back. -/
theorem Agrees.get_le_run
    (agrees : running.Agrees)
    (schedule : List (Nat × Actor))
    (few : (running.run handler forward held schedule).increments < 2 ^ 64)
    (counter : Counter) :
    running.counters.get counter ≤
      (running.run handler forward held schedule).counters.get counter := by
  have earlier : running.increments < 2 ^ 64 :=
    (countP_le_run schedule _).trans_lt few
  rw [UInt64.le_iff_toNat_le, agrees.toNat_eq_count earlier,
    (agrees.run schedule).toNat_eq_count few]
  exact countP_le_run schedule _

end Running

/-! ## Instants of a run -/

namespace Observed

variable
    {handler : Handler}
    {forward : Nat → Nat → Forwarder}
    {held : Nat → Nat → Message → Bool}
    {observed : Observed}

theorem run_append
    (first second : List Mover) :
    observed.run handler forward held (first ++ second) =
      (observed.run handler forward held first).run handler forward held second :=
  List.foldl_append

/-- The gateway runs as if nobody read its counters. -/
theorem running_run
    (movers : List Mover) :
    (observed.run handler forward held movers).running =
      observed.running.run handler forward held (movers.filterMap Mover.turn?) := by
  induction movers generalizing observed with
  | nil => rfl
  | cons mover movers inductive_step =>
      cases mover with
      | actor turn => exact inductive_step
      | reader => exact inductive_step

/-- What runs until a later instant runs on from any earlier one. -/
theorem exists_run_of_le
    (movers : List Mover)
    {earlier later : Nat}
    (order : earlier ≤ later) :
    ∃ schedule,
      (observed.run handler forward held (movers.take later)).running =
        (observed.run handler forward held (movers.take earlier)).running.run
          handler forward held schedule := by
  refine ⟨((movers.take later).drop earlier).filterMap Mover.turn?, ?_⟩
  rw [← running_run, ← run_append]
  have whole := List.take_append_drop earlier (movers.take later)
  rw [List.take_take, Nat.min_eq_left order] at whole
  rw [whole]

end Observed

/-! ## The reads of a snapshot -/

/-- The counts so far were read in order, at instants of a history that are not later than now. -/
inductive Sampling.Stems
    (history : Nat → Counters)
    (now : Nat) :
    Sampling → Prop where
  | begun :
      Stems history now .begun
  | readQueries
      {first : Nat}
      (past : first ≤ now) :
      Stems history now (.readQueries (history first).queries)
  | readValidQueries
      {first second : Nat}
      (order : first ≤ second)
      (past : second ≤ now) :
      Stems history now (.readValidQueries (history first).queries (history second).validQueries)
  | taken
      {first second third : Nat}
      (order : first ≤ second)
      (orderLast : second ≤ third)
      (past : third ≤ now) :
      Stems history now
        (.taken ⟨(history first).queries, (history second).validQueries,
          (history third).resolverFailures⟩)

namespace Sampling.Stems

variable
    {history : Nat → Counters}
    {now later : Nat}
    {sampling : Sampling}

theorem mono
    (stems : sampling.Stems history now)
    (order : now ≤ later) :
    sampling.Stems history later := by
  cases stems with
  | begun => exact .begun
  | readQueries past => exact .readQueries (past.trans order)
  | readValidQueries first past => exact .readValidQueries first (past.trans order)
  | taken first last past => exact .taken first last (past.trans order)

/-- The next read is of what the counters are now. -/
theorem read
    (stems : sampling.Stems history now) :
    (sampling.read (history now).get).Stems history now := by
  cases stems with
  | begun => exact .readQueries le_rfl
  | readQueries past => exact .readValidQueries past le_rfl
  | readValidQueries first past => exact .taken first past le_rfl
  | taken first last past => exact .taken first last past

end Sampling.Stems

/-- Each count of a snapshot was read at an instant of the run so far. -/
theorem Observed.stems_run
    {handler : Handler}
    {forward : Nat → Nat → Forwarder}
    {held : Nat → Nat → Message → Bool}
    {observed : Observed}
    (begun : observed.sampling = .begun)
    (movers : List Mover)
    {now : Nat}
    (inside : now ≤ movers.length) :
    (observed.run handler forward held (movers.take now)).sampling.Stems
      (observed.countersAt handler forward held movers) now := by
  induction now with
  | zero =>
      rw [List.take_zero]
      exact begun ▸ .begun
  | succ now inductive_step =>
      have stems := inductive_step (Nat.le_of_succ_le inside)
      rw [List.take_succ_eq_append_getElem inside, run_append]
      cases movers[now] with
      | actor turn => exact stems.mono (Nat.le_succ now)
      | reader => exact stems.read.mono (Nat.le_succ now)

/-! ## What a snapshot says -/

/-- Failures are counted after valid queries, and valid queries after queries. -/
structure Counters.IsOrdered
    (counters : Counters) : Prop where
  failures_le : counters.resolverFailures ≤ counters.validQueries
  validQueries_le : counters.validQueries ≤ counters.queries

/-- The counters over the instants of a run in which no counter wraps around. -/
structure IsHistory
    (history : Nat → Counters)
    (last : Nat) : Prop where
  ordered : ∀ instant ≤ last, (history instant).IsOrdered
  grows : ∀ earlier later, earlier ≤ later → later ≤ last →
    ∀ counter, (history earlier).get counter ≤ (history later).get counter

namespace Observed

section

variable
    {handler : Handler}
    {forward : Nat → Nat → Forwarder}
    {held : Nat → Nat → Message → Bool}
    {offers : List Offer}
    {past : List (Nat × Actor)}
    {observed : Observed}

/-- With few increments in all there are few up to any instant. -/
theorem few_of_le
    {movers : List Mover}
    (few : (observed.run handler forward held movers).running.increments < 2 ^ 64)
    {instant : Nat}
    (inside : instant ≤ movers.length) :
    (observed.run handler forward held (movers.take instant)).running.increments < 2 ^ 64 := by
  have goesOn : ∃ schedule,
      (observed.run handler forward held (movers.take movers.length)).running =
        (observed.run handler forward held (movers.take instant)).running.run
          handler forward held schedule :=
    exists_run_of_le movers inside
  rcases goesOn with ⟨schedule, same⟩
  rw [List.take_length] at same
  rw [same] at few
  exact (Running.countP_le_run schedule _).trans_lt few

/-- At any instant the gateway is in a state that a schedule leads to. -/
theorem exists_schedule
    (reached : observed.running = (Running.start offers).run handler forward held past)
    (movers : List Mover) :
    ∃ schedule, (observed.run handler forward held movers).running =
      (Running.start offers).run handler forward held schedule := by
  refine ⟨past ++ movers.filterMap Mover.turn?, ?_⟩
  rw [running_run, reached]
  exact List.foldl_append.symm

/-- The counters of a run with few increments are ordered at every instant, and grow. -/
theorem isHistory_countersAt
    (reached : observed.running = (Running.start offers).run handler forward held past)
    (movers : List Mover)
    (few : (observed.run handler forward held movers).running.increments < 2 ^ 64) :
    IsHistory (observed.countersAt handler forward held movers) movers.length where
  ordered := by
    intro instant inside
    have fewThen := few_of_le few inside
    rcases exists_schedule reached (movers.take instant) with ⟨schedule, there⟩
    rw [there] at fewThen
    have conserved := Running.isConserved_run fewThen
    rw [countersAt, there]
    exact ⟨UInt64.le_iff_toNat_le.mpr conserved.failures_le,
      UInt64.le_iff_toNat_le.mpr conserved.validQueries_le⟩
  grows := by
    intro earlier later order inside counter
    have fewLater := few_of_le few inside
    have agrees : (observed.run handler forward held (movers.take earlier)).running.Agrees := by
      rcases exists_schedule reached (movers.take earlier) with ⟨schedule, there⟩
      rw [there]
      exact (Running.Agrees.start offers).run schedule
    have goesOn : ∃ schedule, (observed.run handler forward held (movers.take later)).running =
        (observed.run handler forward held (movers.take earlier)).running.run
          handler forward held schedule :=
      exists_run_of_le movers order
    rcases goesOn with ⟨schedule, same⟩
    rw [same] at fewLater
    rw [countersAt, countersAt, same]
    exact agrees.get_le_run schedule fewLater counter

end

end Observed

/--
What a snapshot says that is read at three instants of a history.  It is off by
no more than what has been counted between two of its reads, and if nothing has
been, it is the counters of an instant.
-/
structure IsSpread
    (history : Nat → Counters)
    (first second third last : Nat)
    (counters : Counters) : Prop where
  order : first ≤ second ∧ second ≤ third ∧ third ≤ last
  read : counters =
    ⟨(history first).queries, (history second).validQueries, (history third).resolverFailures⟩
  between : ∀ counter,
    (history 0).get counter ≤ counters.get counter ∧
      counters.get counter ≤ (history last).get counter
  excess :
    counters.validQueries.toNat ≤
      counters.queries.toNat +
        ((history second).queries.toNat - (history first).queries.toNat)
  excessFailures :
    counters.resolverFailures.toNat ≤
      counters.validQueries.toNat +
        ((history third).validQueries.toNat - (history second).validQueries.toNat)
  copy : history third = history first → counters = history first

theorem IsHistory.isSpread
    {history : Nat → Counters}
    {first second third last : Nat}
    (counted : IsHistory history last)
    (order : first ≤ second)
    (orderLast : second ≤ third)
    (past : third ≤ last) :
    IsSpread history first second third last
      ⟨(history first).queries, (history second).validQueries,
        (history third).resolverFailures⟩ where
  order := ⟨order, orderLast, past⟩
  read := rfl
  between := by
    have inside (counter : Counter) (instant : Nat) (early : instant ≤ last) :
        (history 0).get counter ≤ (history instant).get counter ∧
          (history instant).get counter ≤ (history last).get counter :=
      ⟨counted.grows 0 instant (Nat.zero_le _) early counter,
        counted.grows instant last early le_rfl counter⟩
    intro counter
    cases counter with
    | queries => exact inside .queries first (order.trans (orderLast.trans past))
    | validQueries => exact inside .validQueries second (orderLast.trans past)
    | resolverFailures => exact inside .resolverFailures third past
  excess := by
    have ordered := UInt64.le_iff_toNat_le.mp
      (counted.ordered second (orderLast.trans past)).validQueries_le
    have grows := UInt64.le_iff_toNat_le.mp
      (counted.grows first second order (orderLast.trans past) .queries)
    dsimp only [Counters.get] at grows ⊢
    omega
  excessFailures := by
    have ordered := UInt64.le_iff_toNat_le.mp (counted.ordered third past).failures_le
    have grows := UInt64.le_iff_toNat_le.mp
      (counted.grows second third orderLast past .validQueries)
    dsimp only [Counters.get] at grows ⊢
    omega
  copy := by
    intro same
    have notBefore := counted.grows first second order (orderLast.trans past) .validQueries
    have notAfter := counted.grows second third orderLast past .validQueries
    rw [same] at notAfter
    have unmoved : (history second).validQueries = (history first).validQueries :=
      UInt64.le_antisymm notAfter notBefore
    rw [same, unmoved]

/--
A snapshot that is taken while streams are handled, with fewer increments than a
counter can hold.  At every instant of the run the counters are ordered, and no
counter goes back.  The counts of the snapshot are those of three instants in the
order of the reads; they are off by no more than what was counted between the
reads, and are the counters of an instant if nothing was.
-/
theorem snapshot_spans_its_reads
    (handler : Handler)
    (forward : Nat → Nat → Forwarder)
    (held : Nat → Nat → Message → Bool)
    (offers : List Offer)
    (past : List (Nat × Actor))
    (movers : List Mover)
    (few : (Observed.run handler forward held movers
      ⟨(Running.start offers).run handler forward held past, .begun⟩).running.increments < 2 ^ 64) :
    let begun : Observed := ⟨(Running.start offers).run handler forward held past, .begun⟩
    let history := begun.countersAt handler forward held movers
    IsHistory history movers.length ∧
      ∀ counters, (begun.run handler forward held movers).sampling = .taken counters →
        ∃ first second third, IsSpread history first second third movers.length counters := by
  intro begun history
  have counted : IsHistory history movers.length :=
    Observed.isHistory_countersAt rfl movers few
  refine ⟨counted, fun counters taken => ?_⟩
  have stems : (begun.run handler forward held (movers.take movers.length)).sampling.Stems
      history movers.length :=
    Observed.stems_run rfl movers le_rfl
  rw [List.take_length, taken] at stems
  cases stems with
  | taken order orderLast past => exact ⟨_, _, _, counted.isSpread order orderLast past⟩

/--
The run of a stream whose query is forwarded in vain.  All of it lies between the
first read of a snapshot and the second.
-/
def tornMovers : List Mover :=
  [.reader, .actor (0, .loop)] ++ List.replicate 7 (.actor (0, .task 0)) ++ [.reader, .reader]

/-- The counts of that snapshot come from different instants. -/
theorem snapshot_spans_its_reads_of_failed_query :
    let offer : Offer := {
      streams := [⟨.ok (List.replicate 17 0), .all⟩]
      failure := .sessionAccept "closed" }
    let handler : Handler := { resolver := .named "resolver".toList 53 }
    let forward : Nat → Nat → Forwarder := fun _ _ _ _ => .error (.resolverTimeout "resolver:53")
    let begun : Observed := ⟨.start [offer], .begun⟩
    let history := begun.countersAt handler forward (fun _ _ _ => false) tornMovers
    IsHistory history 11 ∧
      ∃ first second third, IsSpread history first second third 11 ⟨0, 1, 1⟩ := by
  intro offer handler forward begun history
  have spans := snapshot_spans_its_reads handler forward (fun _ _ _ => false) [offer] [] tornMovers
    (by decide)
  exact ⟨spans.1, spans.2 ⟨0, 1, 1⟩ (by decide)⟩

/--
That snapshot shows a valid query and a failure without a query.  The counters are
so at no instant of the run, and are ordered at each.
-/
theorem snapshot_torn_by_failed_query :
    let offer : Offer := {
      streams := [⟨.ok (List.replicate 17 0), .all⟩]
      failure := .sessionAccept "closed" }
    let handler : Handler := { resolver := .named "resolver".toList 53 }
    let forward : Nat → Nat → Forwarder := fun _ _ _ _ => .error (.resolverTimeout "resolver:53")
    let begun : Observed := ⟨.start [offer], .begun⟩
    let history := begun.countersAt handler forward (fun _ _ _ => false) tornMovers
    (begun.run handler forward (fun _ _ _ => false) tornMovers).sampling = .taken ⟨0, 1, 1⟩ ∧
      (∀ instant ≤ tornMovers.length, history instant ≠ ⟨0, 1, 1⟩) ∧
      ¬Counters.IsOrdered ⟨0, 1, 1⟩ := by
  intro offer handler forward begun history
  refine ⟨by decide, by decide, ?_⟩
  intro ordered
  have impossible : (1 : UInt64) ≤ 0 := ordered.validQueries_le
  exact absurd impossible (by decide)

end DnsOverQuic.Gateway
