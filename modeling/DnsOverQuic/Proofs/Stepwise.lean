import DnsOverQuic.Gateway.Task
import DnsOverQuic.Proofs.Handling
import Mathlib.Logic.Function.Iterate

/-!
# Steps of a task against the handling of its stream

At every stage the direct handling of a stream says what is still to happen, and
a step takes the first event off.  So the history of a task, followed by what
its stage leaves to happen, is at all times the transcript of the stream handled
alone.  That one equation is the invariant from which the other facts about a
task are read off.

A task is followed over a number of its own turns.  A turn passes if the task
has ended or if its call is held, and a task that is not held ends within as
many turns as its stage has steps left.
-/

namespace DnsOverQuic.Gateway

open Dns

namespace Stage

/-- What is still to happen at a stage, by the direct handling of the stream. -/
def remainder
    (handler : Handler)
    (forward : Forwarder)
    (stream : ClientStream) :
    Stage → Transcript
  | opened => handler.handle forward stream
  | delivered octets =>
      match handler.examine octets with
      | .error outcome => ⟨[.count .queries, .close], outcome⟩
      | .ok query =>
          (handler.conclude stream query.id
            (forward handler.resolver (Handler.forwarded query))).after
              [.count .queries, .forward handler.resolver (Handler.forwarded query)]
  | asking query =>
      (handler.conclude stream query.id
        (forward handler.resolver (Handler.forwarded query))).after
          [.forward handler.resolver (Handler.forwarded query)]
  | waiting query =>
      handler.conclude stream query.id (forward handler.resolver (Handler.forwarded query))
  | failed query =>
      (handler.answer stream query.id .empty false).after [.count .resolverFailures]
  | writing octets resolverOk =>
      ⟨[.write octets, .close], stream.outcomeOfWrite octets resolverOk⟩
  | closing outcome => ⟨[.close], outcome⟩
  | finished outcome => ⟨[], outcome⟩

variable
    {handler : Handler}
    {forward : Forwarder}
    {stream : ClientStream}

theorem remainder_answering
    (id : UInt16)
    (response : Message)
    (resolverOk : Bool) :
    (answering handler id response resolverOk).remainder handler forward stream =
      handler.answer stream id response resolverOk := by
  unfold answering Handler.answer
  cases handler.codec.encode (response.withId id) <;> rfl

/-- A step takes the first event off what is still to happen. -/
theorem remainder_step
    {stage next : Stage}
    {event : Event}
    (stepped : stage.step? handler forward stream = some (event, next)) :
    (next.remainder handler forward stream).after [event] =
      stage.remainder handler forward stream := by
  cases stage with
  | opened =>
      cases stepped
      simp only [remainder, afterRead]
      cases delivered : stream.message? with
      | none => exact (Handler.handle_of_unread delivered).symm
      | some octets =>
          cases examined : handler.examine octets with
          | error outcome =>
              rw [Handler.handle_of_refused delivered examined]
              simp [examined, Transcript.after]
          | ok query =>
              rw [Handler.handle_of_examined delivered examined]
              simp [examined, Transcript.after]
  | delivered octets =>
      cases stepped
      simp only [remainder, considered]
      cases handler.examine octets <;> simp [Transcript.after]
  | asking query =>
      cases stepped
      rfl
  | waiting query =>
      cases stepped
      -- A response is answered in the same step, a failure is counted in one of its own.
      cases replied : forward handler.resolver (Handler.forwarded query) with
      | ok response =>
          have answers :
              afterReturn handler forward query = answering handler query.id response true := by
            simp [afterReturn, replied]
          rw [answers, remainder_answering, remainder, replied, Handler.conclude]
      | error failure =>
          have fails : afterReturn handler forward query = failed query := by
            simp [afterReturn, replied]
          rw [fails, remainder, remainder, replied, Handler.conclude, Transcript.after_after,
            List.singleton_append]
  | failed query =>
      cases stepped
      rw [remainder_answering, remainder]
  | writing octets resolverOk =>
      cases stepped
      rfl
  | closing outcome =>
      cases stepped
      rfl
  | finished outcome => cases stepped

theorem exists_outcome_of_step?_eq_none
    {stage : Stage}
    (ended : stage.step? handler forward stream = none) :
    ∃ outcome, stage = finished outcome := by
  cases stage with
  | finished outcome => exact ⟨outcome, rfl⟩
  | _ => cases ended

theorem exists_outcome_of_isSome
    {stage : Stage}
    (ended : stage.outcome?.isSome = true) :
    ∃ outcome, stage = finished outcome := by
  cases stage with
  | finished outcome => exact ⟨outcome, rfl⟩
  | _ => cases ended

end Stage

namespace Task

/-- The task after one of its turns, which passes if the task cannot step. -/
def turn
    (handler : Handler)
    (forward : Forwarder)
    (held : Message → Bool)
    (task : Task) :
    Task :=
  ((task.step? handler forward held).map Prod.snd).getD task

/-- The history and what is still to happen make up the stream handled alone. -/
def IsFaithful
    (handler : Handler)
    (forward : Forwarder)
    (task : Task) : Prop :=
  (task.stage.remainder handler forward task.stream).after task.history =
    handler.handle forward task.stream

/-- The events up to the call of the resolver, at the stages that tell all of them. -/
def prologue?
    (handler : Handler) :
    Stage → Option (List Event)
  | .opened => some []
  | .delivered _ => some [.read Protocol.maxMessageSize]
  | .asking _ => some [.read Protocol.maxMessageSize, .count .queries]
  | .waiting query =>
      some [.read Protocol.maxMessageSize, .count .queries,
        .forward handler.resolver (Handler.forwarded query)]
  | _ => none

/-- Before the resolver's part has ended, the history is what the stage tells. -/
def HasPrologue
    (handler : Handler)
    (task : Task) : Prop :=
  ∀ events, prologue? handler task.stage = some events → task.history = events

/-- A task that has made a held call still waits for it. -/
def StillWaits
    (held : Message → Bool)
    (task : Task) : Prop :=
  ∀ event ∈ task.history, event.call?.any held = true → task.isHeld held = true

variable
    {handler : Handler}
    {forward : Forwarder}
    {held : Message → Bool}
    {task next : Task}
    {event : Event}

/-- What a step of a task is made of. -/
theorem exists_stage_of_step?
    (stepped : task.step? handler forward held = some (event, next)) :
    task.isHeld held = false ∧
      ∃ stage, task.stage.step? handler forward task.stream = some (event, stage) ∧
        next = { task with stage := stage, history := task.history ++ [event] } := by
  unfold step? at stepped
  split at stepped
  · cases stepped
  · next free =>
      rcases Option.map_eq_some_iff.mp stepped with ⟨⟨event', stage⟩, stageStepped, same⟩
      cases same
      exact ⟨Bool.eq_false_iff.mpr free, stage, stageStepped, rfl⟩

theorem isHeld_or_finished_of_step?_eq_none
    (stuck : task.step? handler forward held = none) :
    task.isHeld held = true ∨ ∃ outcome, task.stage = .finished outcome := by
  unfold step? at stuck
  split at stuck
  · next waits => exact Or.inl waits
  · exact Or.inr (Stage.exists_outcome_of_step?_eq_none (Option.map_eq_none_iff.mp stuck))

theorem step?_of_finished
    {outcome : Outcome}
    (ended : task.stage = .finished outcome) :
    task.step? handler forward held = none := by
  simp [step?, isHeld, ended, Stage.pending?, Stage.step?]

/-- What every step keeps, every number of turns keeps. -/
theorem invariant_turns
    (invariant : Task → Prop)
    (keeps :
      ∀ {task next : Task} {event : Event},
        task.step? handler forward held = some (event, next) → invariant task → invariant next)
    (turns : Nat)
    (holds : invariant task) :
    invariant ((turn handler forward held)^[turns] task) := by
  induction turns generalizing task with
  | zero => exact holds
  | succ turns ih =>
      rw [Function.iterate_succ_apply]
      apply ih
      cases stepped : task.step? handler forward held with
      | none => simpa [turn, stepped] using holds
      | some step => simpa [turn, stepped] using keeps stepped holds

theorem stream_step
    (stepped : task.step? handler forward held = some (event, next)) :
    next.stream = task.stream := by
  rcases exists_stage_of_step? stepped with ⟨-, stage, -, rfl⟩
  rfl

/-- A step moves one event from what is still to happen into the history. -/
theorem IsFaithful.step
    (stepped : task.step? handler forward held = some (event, next))
    (faithful : task.IsFaithful handler forward) :
    next.IsFaithful handler forward := by
  rcases exists_stage_of_step? stepped with ⟨-, stage, stageStepped, rfl⟩
  have moved := Stage.remainder_step stageStepped
  calc
    (stage.remainder handler forward task.stream).after (task.history ++ [event])
        = ((stage.remainder handler forward task.stream).after [event]).after task.history := by
          rw [Transcript.after_after]
    _ = (task.stage.remainder handler forward task.stream).after task.history := by rw [moved]
    _ = handler.handle forward task.stream := faithful

/-- A step before the resolver's part has ended adds the event that the next stage tells. -/
theorem HasPrologue.step
    (stepped : task.step? handler forward held = some (event, next))
    (prologue : task.HasPrologue handler) :
    next.HasPrologue handler := by
  rcases exists_stage_of_step? stepped with ⟨-, stage, stageStepped, rfl⟩
  intro events told
  cases current : task.stage with
  | opened =>
      rw [current] at stageStepped
      cases stageStepped
      have before := prologue _ (by rw [current]; rfl)
      unfold Stage.afterRead at told
      split at told <;> cases told
      simp [before]
  | delivered octets =>
      rw [current] at stageStepped
      cases stageStepped
      have before := prologue _ (by rw [current]; rfl)
      unfold Stage.considered at told
      split at told <;> cases told
      simp [before]
  | asking query =>
      rw [current] at stageStepped
      cases stageStepped
      have before := prologue _ (by rw [current]; rfl)
      cases told
      simp [before]
  | waiting query =>
      -- From here on no stage tells all the events before it.
      rw [current] at stageStepped
      cases stageStepped
      unfold Stage.afterReturn Stage.answering at told
      split at told
      · split at told <;> cases told
      · cases told
  | failed query =>
      rw [current] at stageStepped
      cases stageStepped
      unfold Stage.answering at told
      split at told <;> cases told
  | writing octets resolverOk =>
      rw [current] at stageStepped
      cases stageStepped
      cases told
  | closing outcome =>
      rw [current] at stageStepped
      cases stageStepped
      cases told
  | finished outcome =>
      rw [current] at stageStepped
      cases stageStepped

/-- The only step that makes a call leads to the stage that waits for it. -/
theorem pending?_of_call?
    {stream : ClientStream}
    {stage after : Stage}
    {message : Message}
    (stepped : stage.step? handler forward stream = some (event, after))
    (called : event.call? = some message) :
    after.pending? = some message := by
  cases stage <;> cases stepped <;> cases called
  rfl

/-- A task makes a held call only to wait for it from then on. -/
theorem StillWaits.step
    (stepped : task.step? handler forward held = some (event, next))
    (waits : task.StillWaits held) :
    next.StillWaits held := by
  rcases exists_stage_of_step? stepped with ⟨free, stage, stageStepped, rfl⟩
  intro made member calls
  rcases List.mem_append.mp member with earlier | latest
  · rw [waits made earlier calls] at free
    cases free
  · rcases List.mem_singleton.mp latest with rfl
    cases called : made.call? with
    | none => simp [called] at calls
    | some message =>
        simp only [isHeld, pending?_of_call? stageStepped called]
        simpa [called] using calls

/-- What holds of every task that has had turns since its start. -/
structure IsSound
    (handler : Handler)
    (forward : Forwarder)
    (held : Message → Bool)
    (task : Task) : Prop where
  faithful : task.IsFaithful handler forward
  prologue : task.HasPrologue handler
  waits : task.StillWaits held

/-- A task is sound from its start on, after any number of turns. -/
theorem isSound_turns
    (handler : Handler)
    (forward : Forwarder)
    (held : Message → Bool)
    (stream : ClientStream)
    (turns : Nat) :
    ((turn handler forward held)^[turns] { stream := stream }).IsSound handler forward held where
  faithful := invariant_turns _ IsFaithful.step turns rfl
  prologue := by
    apply invariant_turns _ HasPrologue.step turns
    intro events told
    cases told
    rfl
  waits := by
    apply invariant_turns _ StillWaits.step turns
    intro event member
    cases member

theorem iterate_turn_of_finished
    {outcome : Outcome}
    (ended : task.stage = .finished outcome)
    (turns : Nat) :
    (turn handler forward held)^[turns] task = task := by
  apply Function.iterate_fixed
  simp [turn, step?_of_finished ended]

/-- A task whose calls return ends within as many turns as it has steps left. -/
theorem exists_outcome_of_turns
    (free : ∀ message, held message = false)
    {turns : Nat}
    (enough : task.stage.stepsLeft ≤ turns) :
    ∃ outcome, ((turn handler forward held)^[turns] task).stage = .finished outcome := by
  induction turns generalizing task with
  | zero =>
      cases current : task.stage with
      | finished outcome => exact ⟨outcome, current⟩
      | _ =>
          rw [current] at enough
          simp [Stage.stepsLeft] at enough
  | succ turns ih =>
      cases stepped : task.step? handler forward held with
      | none =>
          rcases isHeld_or_finished_of_step?_eq_none stepped with waits | ⟨outcome, ended⟩
          · rw [isHeld, Option.any_eq_true] at waits
            rcases waits with ⟨message, -, waits⟩
            rw [free message] at waits
            cases waits
          · exact ⟨outcome, by rw [iterate_turn_of_finished ended, ended]⟩
      | some step =>
          rcases exists_stage_of_step? stepped with ⟨-, stage, stageStepped, same⟩
          have nearer := Stage.stepsLeft_lt stageStepped
          have advanced : task.turn handler forward held = step.2 := by simp [turn, stepped]
          rw [Function.iterate_succ_apply, advanced]
          apply ih
          rw [same]
          exact Nat.le_of_lt_succ (Nat.lt_of_lt_of_le nearer enough)

namespace IsFaithful

/-- The history so far is how the stream handled alone begins. -/
theorem history_isPrefix
    (faithful : task.IsFaithful handler forward) :
    task.history <+: (handler.handle forward task.stream).events :=
  ⟨(task.stage.remainder handler forward task.stream).events, congrArg Transcript.events faithful⟩

/-- A task that has ended did what the stream handled alone does. -/
theorem eq_of_finished
    {outcome : Outcome}
    (faithful : task.IsFaithful handler forward)
    (ended : task.stage = .finished outcome) :
    task.history = (handler.handle forward task.stream).events ∧
      outcome = (handler.handle forward task.stream).outcome := by
  have whole := faithful
  rw [IsFaithful, ended, Stage.remainder] at whole
  rw [← whole]
  simp

/-- A task whose calls return comes to do all that the stream handled alone does. -/
theorem turns_eq
    (faithful : task.IsFaithful handler forward)
    (free : ∀ message, held message = false)
    {turns : Nat}
    (enough : task.stage.stepsLeft ≤ turns) :
    (turn handler forward held)^[turns] task =
      { stream := task.stream
        stage := .finished (handler.handle forward task.stream).outcome
        history := (handler.handle forward task.stream).events } := by
  have finishes : ∃ outcome,
      ((turn handler forward held)^[turns] task).stage = .finished outcome :=
    exists_outcome_of_turns free enough
  rcases finishes with ⟨outcome, ended⟩
  have streamKept : ((turn handler forward held)^[turns] task).stream = task.stream :=
    invariant_turns (fun other => other.stream = task.stream)
      (fun stepped kept => (stream_step stepped).trans kept) turns rfl
  have whole := (invariant_turns _ IsFaithful.step turns faithful).eq_of_finished ended
  rw [streamKept] at whole
  rw [← whole.1, ← whole.2, ← ended, ← streamKept]

end IsFaithful

end Task

/-- True if one of the calls of a transcript is held. -/
def Transcript.reaches
    (held : Message → Bool)
    (transcript : Transcript) :
    Bool :=
  transcript.events.any (fun event => event.call?.any held)

namespace Task

section Stuck

variable
    {handler : Handler}
    {forward : Forwarder}
    {held : Message → Bool}
    {task : Task}

theorem exists_waiting_of_isHeld
    (waits : task.isHeld held = true) :
    ∃ query, task.stage = .waiting query ∧ held (Handler.forwarded query) = true := by
  cases current : task.stage with
  | waiting query =>
      refine ⟨query, rfl, ?_⟩
      simpa [isHeld, current, Stage.pending?] using waits
  | _ => simp [isHeld, current, Stage.pending?] at waits

/-- A held task has made its call and nothing else since it counted the query. -/
theorem history_of_isHeld
    (prologue : task.HasPrologue handler)
    (waits : task.isHeld held = true) :
    ∃ query, held (Handler.forwarded query) = true ∧
      task.history =
        [.read Protocol.maxMessageSize, .count .queries,
          .forward handler.resolver (Handler.forwarded query)] := by
  rcases exists_waiting_of_isHeld waits with ⟨query, current, holds⟩
  exact ⟨query, holds, prologue _ (by rw [current]; rfl)⟩

/-- A held task is one that handled alone would reach a held call. -/
theorem reaches_of_isHeld
    (faithful : task.IsFaithful handler forward)
    (prologue : task.HasPrologue handler)
    (waits : task.isHeld held = true) :
    (handler.handle forward task.stream).reaches held = true := by
  rcases history_of_isHeld prologue waits with ⟨query, holds, history⟩
  apply List.any_eq_true.mpr
  refine ⟨.forward handler.resolver (Handler.forwarded query), ?_, holds⟩
  apply faithful.history_isPrefix.subset
  simp [history]

/-- A task that cannot step has ended, unless handled alone it would reach a held call. -/
theorem finished_iff_of_stuck
    (faithful : task.IsFaithful handler forward)
    (prologue : task.HasPrologue handler)
    (waits : task.StillWaits held)
    (stuck : task.step? handler forward held = none) :
    task.stage.outcome?.isSome = true ↔
      (handler.handle forward task.stream).reaches held = false := by
  rcases isHeld_or_finished_of_step?_eq_none stuck with isHeld | ⟨outcome, ended⟩
  · rcases exists_waiting_of_isHeld isHeld with ⟨query, current, -⟩
    rw [reaches_of_isHeld faithful prologue isHeld, current]
    simp [Stage.outcome?]
  · have history := (faithful.eq_of_finished ended).1
    have free : task.isHeld held = false := by simp [Task.isHeld, ended, Stage.pending?]
    simp only [ended, Stage.outcome?, Option.isSome_some, true_iff]
    rw [Transcript.reaches, ← history, List.any_eq_false]
    intro event member calls
    rw [waits event member calls] at free
    cases free

end Stuck

end Task

end DnsOverQuic.Gateway
