import DnsOverQuic.Dns.Codec
import Mathlib.Tactic.Common

/-!
# The size of what is written

No message that is written exceeds the largest size.  Every write checks the
position that it leads to, but the octets that an abandoned record left behind
count too, and nothing checks them.  The invariant is therefore about the
position and the leftover together: what is left behind was within the bound
when it was written, and later writes overwrite it before they add to it.
-/

namespace DnsOverQuic.Dns

namespace Wire

/-- The message under construction, with what was left behind, is not too long. -/
def Output.Fits
    (output : Output) : Prop :=
  output.position + output.leftover.length ≤ Protocol.maxMessageSize

namespace Output.Fits

variable
    {output : Output}

theorem start :
    ({} : Output).Fits := by
  unfold Fits
  decide

theorem rewind
    (fits : output.Fits)
    (offset : Nat) :
    (output.rewind offset).Fits := by
  simp only [Fits, Output.rewind, position, Array.size_shrink, List.length_nil] at fits ⊢
  omega

/-- Abandoning a record only moves octets behind the position. -/
theorem abandon
    (fits : output.Fits)
    (offset : Nat)
    (targets : List (List Label × Nat)) :
    (output.abandon offset targets).Fits := by
  simp only [Fits, Output.abandon, position, Array.size_shrink, List.length_append,
    List.length_drop, Array.length_toList] at fits ⊢
  omega

theorem remember
    (fits : output.Fits)
    (labels : List Label)
    (offset : Nat) :
    (output.remember labels offset).Fits :=
  fits

theorem closeLength
    (fits : output.Fits)
    (offset : Nat) :
    (output.closeLength offset).Fits := by
  simpa only [Fits, Output.closeLength, position, Array.size_setIfInBounds] using fits

end Output.Fits

/-- A sequence of writes leaves a message that is not too long, even if it is refused. -/
def Fitting
    {α : Type}
    (write : Writer α) : Prop :=
  ∀ output, output.Fits →
    match write output with
    | .ok _ output => output.Fits
    | .error _ output => output.Fits

section Fitting

variable
    {α β : Type}

theorem fitting_pure
    (answer : α) :
    Fitting (pure answer) :=
  fun _ fits => fits

theorem fitting_bind
    {write : Writer α}
    {next : α → Writer β}
    (first : Fitting write)
    (second : ∀ answer, Fitting (next answer)) :
    Fitting (write >>= next) := by
  intro output fits
  have between := first output fits
  change match EStateM.bind write next output with
    | .ok _ output => output.Fits
    | .error _ output => output.Fits
  unfold EStateM.bind
  cases written : write output with
  | ok answer output =>
      rw [written] at between
      exact second answer output between
  | error overflow output =>
      rw [written] at between
      exact between

theorem fitting_get :
    Fitting get :=
  fun _ fits => fits

theorem fitting_modify
    {change : Output → Output}
    (keeps : ∀ output, output.Fits → (change output).Fits) :
    Fitting (modify change) :=
  keeps

theorem fitting_forM
    {write : α → Writer Unit}
    (each : ∀ item, Fitting (write item))
    (items : List α) :
    Fitting (items.forM write) := by
  induction items with
  | nil => exact fitting_pure ()
  | cons item items ih => exact fitting_bind (each item) (fun _ => ih)

end Fitting

/-- Octets are written only where they fit, and in the place of octets left behind. -/
theorem fitting_put
    (octets : Octets) :
    Fitting (put octets) := by
  intro output fits
  unfold put
  -- The position is checked, and what is left behind shrinks as the position advances.
  by_cases enough : output.position + octets.length ≤ Protocol.maxMessageSize
  · rw [if_pos enough]
    have longer : (output.written ++ octets).size = output.written.size + octets.length := by
      rw [← Array.length_toList, Array.toList_appendList, List.length_append, Array.length_toList]
    simp only [Output.Fits, Output.position, longer, List.length_drop] at enough fits ⊢
    omega
  · rw [if_neg enough]
    exact fits

theorem fitting_putEach
    (octets : Octets) :
    Fitting (putEach octets) :=
  fitting_forM (fun octet => fitting_put [octet]) octets

theorem fitting_putCounted
    (octets : Octets) :
    Fitting (putCounted octets) :=
  fitting_bind (fitting_put _) (fun _ => fitting_put octets)

/-- The end of a name fits, whichever of its ends were written before. -/
theorem fitting_closeName
    (pointing : Bool)
    (past : Nat)
    (ends : List (List Label × Nat)) :
    Fitting (closeName pointing past ends) := by
  -- Each longer end is replaced by a pointer, remembered or passed over; then the rest follows.
  induction ends with
  | nil => exact fitting_put [0]
  | cons first ends ih =>
      rcases first with ⟨labels, offset⟩
      refine fitting_bind fitting_get (fun output => ?_)
      cases output.targets.lookup labels with
      | some target =>
          cases pointing with
          | true =>
              exact fitting_bind (fitting_modify (fun _ fits => fits.rewind offset))
                (fun _ => fitting_put _)
          | false => exact ih
      | none =>
          change Fitting (if past < pointerReach then modify _ >>= fun _ => closeName _ _ _ else _)
          by_cases reachable : past < pointerReach
          · rw [if_pos reachable]
            exact fitting_bind (fitting_modify (fun _ fits => fits.remember labels offset))
              (fun _ => ih)
          · rw [if_neg reachable]
            exact ih

theorem fitting_putLabels
    (pointing : Bool)
    (labels : List Label) :
    Fitting (putLabels pointing labels) := by
  refine fitting_bind fitting_get (fun _ => ?_)
  refine fitting_bind (fitting_forM fitting_putCounted labels) (fun _ => ?_)
  exact fitting_bind fitting_get (fun _ => fitting_closeName pointing _ _)

theorem fitting_putQuestion
    (question : Question) :
    Fitting (putQuestion question) := by
  refine fitting_bind (fitting_putLabels true _) (fun _ => ?_)
  exact fitting_bind (fitting_put _) (fun _ => fitting_put _)

theorem fitting_putOption
    (option : EdnsOption) :
    Fitting (putOption option) := by
  refine fitting_bind (fitting_put _) (fun _ => ?_)
  exact fitting_bind (fitting_put _) (fun _ => fitting_putEach _)

theorem fitting_putParameter
    (parameter : ServiceParameter) :
    Fitting (putParameter parameter) := by
  refine fitting_bind (fitting_put _) (fun _ => ?_)
  exact fitting_bind (fitting_put _) (fun _ => fitting_putEach _)

theorem fitting_putServiceBinding
    (binding : ServiceBinding) :
    Fitting (putServiceBinding binding) := by
  refine fitting_bind (fitting_put _) (fun _ => ?_)
  refine fitting_bind (fitting_putLabels false _) (fun _ => ?_)
  exact fitting_forM fitting_putParameter binding.parameters

theorem fitting_putData
    (data : RecordData) :
    Fitting (putData data) := by
  cases data with
  | absent type => exact fitting_pure ()
  | a address => exact fitting_putEach _
  | aaaa address => exact fitting_forM (fun _ => fitting_put _) _
  | ns server => exact fitting_putLabels true _
  | cname target => exact fitting_putLabels true _
  | ptr target => exact fitting_putLabels true _
  | aname target => exact fitting_putLabels false _
  | mx preference exchange =>
      exact fitting_bind (fitting_put _) (fun _ => fitting_putLabels true _)
  | soa primary mailbox serial refresh retry expire minimum =>
      refine fitting_bind (fitting_putLabels true _) (fun _ => ?_)
      refine fitting_bind (fitting_putLabels true _) (fun _ => ?_)
      refine fitting_bind (fitting_put _) (fun _ => ?_)
      refine fitting_bind (fitting_put _) (fun _ => ?_)
      refine fitting_bind (fitting_put _) (fun _ => ?_)
      exact fitting_bind (fitting_put _) (fun _ => fitting_put _)
  | srv priority weight portNumber target =>
      refine fitting_bind (fitting_put _) (fun _ => ?_)
      refine fitting_bind (fitting_put _) (fun _ => ?_)
      exact fitting_bind (fitting_put _) (fun _ => fitting_putLabels false _)
  | txt strings => exact fitting_forM (fun _ => fitting_putCounted _) strings
  | hinfo processor system =>
      exact fitting_bind (fitting_putCounted _) (fun _ => fitting_putCounted _)
  | opt options => exact fitting_forM fitting_putOption options
  | naptr order preference flags services pattern replacement =>
      refine fitting_bind (fitting_put _) (fun _ => fitting_bind (fitting_put _) (fun _ => ?_))
      refine fitting_bind (fitting_putCounted _) (fun _ => ?_)
      refine fitting_bind (fitting_putCounted _) (fun _ => ?_)
      exact fitting_bind (fitting_putCounted _) (fun _ => fitting_putLabels false _)
  | caa flags tag property =>
      refine fitting_bind (fitting_putEach _) (fun _ => ?_)
      exact fitting_bind (fitting_putCounted _) (fun _ => fitting_putEach property)
  | cert kind keyTag algorithm certificate =>
      refine fitting_bind (fitting_put _) (fun _ => ?_)
      exact fitting_bind (fitting_put _) (fun _ => fitting_putEach _)
  | sshfp algorithm kind fingerprint => exact fitting_putEach _
  | tlsa usage selector matching association => exact fitting_putEach _
  | csync serial flags bitMap =>
      refine fitting_bind (fitting_put _) (fun _ => ?_)
      exact fitting_bind (fitting_put _) (fun _ => fitting_putEach _)
  | svcb binding => exact fitting_putServiceBinding binding
  | https binding => exact fitting_putServiceBinding binding
  | uninterpreted type octets => exact fitting_putEach octets

theorem fitting_putRecord
    (record : Record) :
    Fitting (putRecord record) := by
  refine fitting_bind (fitting_putLabels true _) (fun _ => ?_)
  refine fitting_bind (fitting_put _) (fun _ => ?_)
  refine fitting_bind (fitting_put _) (fun _ => ?_)
  refine fitting_bind (fitting_put _) (fun _ => ?_)
  refine fitting_bind fitting_get (fun output => ?_)
  refine fitting_bind (fitting_put _) (fun _ => ?_)
  refine fitting_bind (fitting_putData _) (fun _ => ?_)
  exact fitting_modify (fun _ fits => fits.closeLength output.position)

/-- A section fits, cut short or not. -/
theorem Output.Fits.writeSection
    {output : Output}
    (fits : output.Fits)
    (count : Nat)
    (records : List Record) :
    (writeSection count records output).2.Fits := by
  induction records generalizing count output with
  | nil => exact fits
  | cons record records ih =>
      have between := fitting_putRecord record output fits
      cases written : putRecord record output with
      | ok answer next =>
          rw [written] at between
          simpa only [Wire.writeSection, written] using ih between (count + 1)
      | error overflow next =>
          rw [written] at between
          simpa only [Wire.writeSection, written] using
            between.abandon output.position output.targets

theorem Output.Fits.length_octets
    {output : Output}
    (fits : output.Fits) :
    headerSize + output.octets.length ≤ Protocol.maxMessageSize := by
  simp only [Output.Fits, Output.position] at fits
  simp only [Output.octets, List.length_append, Array.length_toList]
  omega

end Wire

namespace Message

open Wire

/-- The body of a message fits behind a header. -/
theorem length_octets_of_body?
    {message : Message}
    {body : Body}
    (written : message.body? = some body) :
    headerSize + body.octets.length ≤ Protocol.maxMessageSize := by
  unfold body? at written
  have asked := fitting_forM fitting_putQuestion message.questions {} .start
  cases questions : message.questions.forM putQuestion {} with
  | error overflow output => simp [questions] at written
  | ok answer output =>
      rw [questions] at asked
      simp only [questions, Option.some.injEq] at written
      rw [← written]
      exact (((asked.writeSection 0 _).writeSection 0 _).writeSection 0 _).writeSection 0 _
        |>.length_octets

/-- No message that is written exceeds the largest size. -/
theorem length_of_encode?
    {message : Message}
    {octets : Octets}
    (encoded : message.encode? = some octets) :
    octets.length ≤ Protocol.maxMessageSize := by
  rcases Option.map_eq_some_iff.mp encoded with ⟨tail, written, rfl⟩
  rcases Option.map_eq_some_iff.mp written with ⟨body, built, rfl⟩
  have fits := length_octets_of_body? built
  simp only [headerSize] at fits
  simp only [List.length_append, headerTail, List.length_cons, Octets.length_ofUInt16]
  omega

end Message

end DnsOverQuic.Dns
