import DnsOverQuic.Arguments.Reading
import DnsOverQuic.Proofs.Numerals
import DnsOverQuic.Proofs.UniqueKeys
import Mathlib.Data.List.Basic
import Mathlib.Data.List.TakeDrop
import Mathlib.Data.List.TakeWhile

/-!
# Spelled arguments

An option of a command line is a flag with its value, and it can be spelled in
several ways: by the long name or by the letter of the flag, with the value in
the same argument or in the next.  Every spelling has the effect of giving the
value to the flag, where what the line has left open before is completed first.
A line of options therefore gives their values in order, and fails exactly if
one flag is given twice.
-/

namespace DnsOverQuic.Arguments

open Text

/-! ## Options and their spellings -/

/-- The text is one for the value, for a flag with such values. -/
inductive Denotes :
    ValueKind → String → Value → Prop where
  | text
      (content : String) :
      Denotes .text content (.text content)
  | path
      {content : String}
      (nonempty : content ≠ "") :
      Denotes .path content (.text content)
  | socketNumber
      {content : String}
      {number : UInt16}
      (numeral : IsNumeral 10 Decimal.digitValue? number.toNat content.toList) :
      Denotes .socketNumber content (.socketNumber number)
  | truth
      (value : Bool) :
      Denotes .truth (if value then "true" else "false") (.truth value)

/-- A word that calls a flag, by its name or its letter. -/
inductive Calls
    (flag : Flag) :
    String → Prop where
  | name :
      Calls flag ("--" ++ flag.name)
  | letter
      {letter : Char}
      (lettered : flag.letter = some letter) :
      Calls flag ("-" ++ letter.toString)

/-- A text that is no flag when it is an argument of its own. -/
def StandsAlone
    (content : String) :
    Prop :=
  content.toList.head? = some '-' → content = "-"

/-- The words of a command line that spell an option, one of the flags with its value. -/
inductive Spells
    (flags : List Flag) :
    String × Value → List String → Prop where
  | switch
      {flag : Flag}
      (known : flag ∈ flags)
      (switch : flag.kind = .switch) :
      Spells flags (flag.name, .present) ["--" ++ flag.name]
  | apart
      {flag : Flag}
      {kind : ValueKind}
      {word content : String}
      {value : Value}
      (known : flag ∈ flags)
      (valued : flag.kind = .valued kind)
      (denotes : Denotes kind content value)
      (calls : Calls flag word)
      (alone : StandsAlone content) :
      Spells flags (flag.name, value) [word, content]
  | joined
      {flag : Flag}
      {kind : ValueKind}
      {word content : String}
      {value : Value}
      (known : flag ∈ flags)
      (valued : flag.kind = .valued kind)
      (denotes : Denotes kind content value)
      (calls : Calls flag word) :
      Spells flags (flag.name, value) [word ++ "=" ++ content]
  | attached
      {flag : Flag}
      {kind : ValueKind}
      {letter : Char}
      {content : String}
      {value : Value}
      (known : flag ∈ flags)
      (valued : flag.kind = .valued kind)
      (denotes : Denotes kind content value)
      (lettered : flag.letter = some letter)
      (nonempty : content ≠ "")
      (undivided : content.toList.head? ≠ some '=') :
      Spells flags (flag.name, value) ["-" ++ letter.toString ++ content]

/--
Flags that can be told apart, from each other and from those that every command
line knows, by names and letters that words leave intact.
-/
structure Lawful
    (flags : List Flag) :
    Prop where
  names : ∀ flag ∈ flags, ∀ other ∈ flags ++ commonFlags, other.name = flag.name → other = flag
  letters :
    ∀ flag ∈ flags, ∀ other ∈ flags ++ commonFlags,
      flag.letter ≠ none → other.letter = flag.letter → other = flag
  named : ∀ flag ∈ flags, flag.name ≠ ""
  undivided : ∀ flag ∈ flags, '=' ∉ flag.name.toList
  undashed : ∀ flag ∈ flags, flag.letter ≠ some '-'

/-! ## Values -/

/-- A number of a socket is read from its numerals. -/
theorem socketNumber?_of_isNumeral
    {text : List Char}
    {number : UInt16}
    (numeral : IsNumeral 10 Decimal.digitValue? number.toNat text) :
    socketNumber? text = some number := by
  have unsigned (sign : Char) (other : Decimal.digitValue? sign = none) (digits : List Char) :
      text ≠ sign :: digits := by
    rintro rfl
    exact numeral.not_mem other List.mem_cons_self
  have read : integer? text = some (number.toNat : Int) := by
    unfold integer?
    split
    · exact absurd rfl (unsigned '-' (by decide) _)
    · exact absurd rfl (unsigned '+' (by decide) _)
    · rw [Decimal.read?_eq_some_iff.mpr numeral]
      rfl
  have bound : number.toNat ≤ 65535 := Nat.le_of_lt_succ number.toNat_lt
  simp [socketNumber?, read]
  omega

/-- A text for a value is taken as it. -/
theorem accept_of_denotes
    {kind : ValueKind}
    {content : String}
    {value : Value}
    (denotes : Denotes kind content value) :
    accept content kind = .ok value := by
  cases denotes with
  | text => rfl
  | path nonempty => exact if_neg nonempty
  | socketNumber numeral => simp only [accept, socketNumber?_of_isNumeral numeral]
  | truth value => cases value <;> rfl

/-! ## States -/

namespace State

variable
    {state settled : State}
    {name : String}
    {value : Except Fault Value}

theorem pending_of_give
    (gives : state.give name value = .ok settled) :
    settled.pending = state.pending := by
  unfold give at gives
  split at gives
  · cases gives
  · cases value with
    | error fault => cases gives
    | ok value =>
        cases gives
        rfl

theorem give_of_mem
    (again : name ∈ state.given.map Prod.fst) :
    state.give name value = .error .repeated := by
  rw [give, if_pos]
  simpa using again

theorem give_of_not_mem
    {given : Value}
    (fresh : name ∉ state.given.map Prod.fst) :
    state.give name (.ok given) = .ok { state with given := state.given ++ [(name, given)] } := by
  rw [give, if_neg]
  · rfl
  · simpa using fresh

/-- Once completed, nothing is left open. -/
theorem pending_of_settle
    (settles : state.settle = .ok settled) :
    settled.pending = none := by
  unfold settle at settles
  split at settles
  · cases settles
    assumption
  · split at settles
    · cases settles
    · exact pending_of_give settles

theorem settle_of_none
    (complete : state.pending = none) :
    state.settle = .ok state := by
  rw [settle, complete]

section

variable
    {flag : Flag}
    {kind : ValueKind}
    {content : String}
    {given : Value}

theorem takeFlag_switch
    (switch : flag.kind = .switch) :
    state.takeFlag flag none = state.settle >>= give flag.name (.ok .present) := by
  simp only [takeFlag, switch]

theorem takeFlag_attached
    (valued : flag.kind = .valued kind)
    (denotes : Denotes kind content given) :
    state.takeFlag flag (some content) = state.settle >>= give flag.name (.ok given) := by
  simp only [takeFlag, valued, accept_of_denotes denotes]

/-- A flag and the text for its value leave open what completing them gives. -/
theorem takeFlag_takeContent
    (valued : flag.kind = .valued kind) :
    (state.takeFlag flag none >>= takeContent content) =
      state.settle >>= fun settled =>
        .ok { settled with pending := some ⟨flag.name, kind, some content⟩ } := by
  simp only [takeFlag, valued]
  cases state.settle <;> rfl

theorem settle_of_content
    (name : String)
    (complete : state.pending = none)
    (denotes : Denotes kind content given) :
    { state with pending := some ⟨name, kind, some content⟩ : State }.settle =
      state.give name (.ok given) := by
  rcases state with ⟨options, pending⟩
  cases complete
  simp only [settle, accept_of_denotes denotes]

end

end State

/-! ## Words -/

section

variable
    {flags : List Flag}
    {rest : List String}
    {state : State}

/-- A flag is found by its name. -/
theorem Lawful.find?_name
    (lawful : Lawful flags)
    {flag : Flag}
    (known : flag ∈ flags) :
    (flags ++ commonFlags).find? (fun other => other.name == flag.name) = some flag := by
  apply find?_of_unique (List.mem_append_left commonFlags known) (beq_self_eq_true flag.name)
  intro other among same
  exact lawful.names flag known other among (beq_iff_eq.mp same)

/-- A flag with a letter is found by it. -/
theorem Lawful.find?_letter
    (lawful : Lawful flags)
    {flag : Flag}
    {letter : Char}
    (known : flag ∈ flags)
    (lettered : flag.letter = some letter) :
    (flags ++ commonFlags).find? (fun other => other.letter == some letter) = some flag := by
  rw [← lettered]
  apply find?_of_unique (List.mem_append_left commonFlags known) (beq_self_eq_true flag.letter)
  intro other among same
  exact lawful.letters flag known other among (by simp [lettered]) (beq_iff_eq.mp same)

theorem takeAll_long
    {argument : String}
    {text : List Char}
    (symbols : argument.toList = '-' :: '-' :: text)
    (nonempty : text ≠ []) :
    takeAll flags (argument :: rest) state =
      takeLong flags text state >>= takeAll flags rest := by
  rw [takeAll, symbols]
  split
  next same =>
    simp only [List.cons.injEq, true_and] at same
    exact absurd same nonempty
  next same =>
    cases same
    rfl
  next other same =>
    cases same
    exact absurd rfl other
  next other =>
    exact absurd rfl (other '-' text)

theorem takeAll_letters
    {argument : String}
    {letter : Char}
    {letters : List Char}
    (symbols : argument.toList = '-' :: letter :: letters)
    (undashed : letter ≠ '-') :
    takeAll flags (argument :: rest) state =
      takeLetters flags (letter :: letters) state >>= takeAll flags rest := by
  rw [takeAll, symbols]
  split <;> simp_all

theorem takeAll_content
    {content : String}
    (alone : StandsAlone content) :
    takeAll flags (content :: rest) state = state.takeContent content >>= takeAll flags rest := by
  have dash {text : List Char} (dashed : content.toList = '-' :: text) : text = [] := by
    have whole := alone (by rw [dashed]; rfl)
    subst whole
    simpa using dashed.symm
  rw [takeAll]
  split
  next dashed => cases dash dashed
  next dashed => cases dash dashed
  next dashed => cases dash dashed
  next => rfl

end

/-! ## Flags -/

theorem splitLong_of_undivided
    {name : String}
    (undivided : '=' ∉ name.toList) :
    splitLong name.toList = (name, none) := by
  have inside : ∀ symbol ∈ name.toList, (symbol != '=') = true := by
    intro symbol among
    exact bne_iff_ne.mpr (ne_of_mem_of_not_mem among undivided)
  rw [splitLong, List.span_eq_takeWhile_dropWhile, List.takeWhile_eq_self_iff.mpr inside,
    List.dropWhile_eq_nil_iff.mpr inside]
  simp

theorem splitLong_joined
    {name : String}
    {content : List Char}
    (undivided : '=' ∉ name.toList) :
    splitLong (name.toList ++ '=' :: content) = (name, some (String.ofList content)) := by
  have inside : ∀ symbol ∈ name.toList, (symbol != '=') = true := by
    intro symbol among
    exact bne_iff_ne.mpr (ne_of_mem_of_not_mem among undivided)
  rw [splitLong, List.span_eq_takeWhile_dropWhile, List.takeWhile_append_of_pos inside,
    List.dropWhile_append_of_pos inside]
  simp

section

variable
    {flags : List Flag}
    {flag : Flag}
    {kind : ValueKind}
    {rest : List String}
    {state : State}

theorem takeAll_name
    (lawful : Lawful flags)
    (known : flag ∈ flags) :
    takeAll (flags ++ commonFlags) (("--" ++ flag.name) :: rest) state =
      state.takeFlag flag none >>= takeAll (flags ++ commonFlags) rest := by
  have symbols : ("--" ++ flag.name).toList = '-' :: '-' :: flag.name.toList := by
    simp
  rw [takeAll_long symbols (by simpa using lawful.named flag known), takeLong,
    splitLong_of_undivided (lawful.undivided flag known)]
  simp only [lawful.find?_name known]

/-- What follows the letter of a flag is attached to it. -/
theorem takeAll_letter
    {argument : String}
    {letter : Char}
    {letters : List Char}
    (lawful : Lawful flags)
    (known : flag ∈ flags)
    (valued : flag.kind = .valued kind)
    (lettered : flag.letter = some letter)
    (symbols : argument.toList = '-' :: letter :: letters) :
    takeAll (flags ++ commonFlags) (argument :: rest) state =
      state.takeFlag flag (attachedTo letters) >>= takeAll (flags ++ commonFlags) rest := by
  have undashed : letter ≠ '-' := by
    rintro rfl
    exact lawful.undashed flag known lettered
  rw [takeAll_letters symbols undashed, takeLetters]
  simp only [lawful.find?_letter known lettered, valued]

/-- A word that calls a flag for a value leaves the flag open. -/
theorem takeAll_calls
    {word : String}
    (lawful : Lawful flags)
    (known : flag ∈ flags)
    (valued : flag.kind = .valued kind)
    (calls : Calls flag word) :
    takeAll (flags ++ commonFlags) (word :: rest) state =
      state.takeFlag flag none >>= takeAll (flags ++ commonFlags) rest := by
  cases calls with
  | name => exact takeAll_name lawful known
  | @letter letter lettered =>
      have symbols : ("-" ++ letter.toString).toList = ['-', letter] := by
        simp
      exact takeAll_letter lawful known valued lettered symbols

/-- A value may be joined to a word that calls its flag. -/
theorem takeAll_joined
    {word content : String}
    (lawful : Lawful flags)
    (known : flag ∈ flags)
    (valued : flag.kind = .valued kind)
    (calls : Calls flag word) :
    takeAll (flags ++ commonFlags) ((word ++ "=" ++ content) :: rest) state =
      state.takeFlag flag (some content) >>= takeAll (flags ++ commonFlags) rest := by
  cases calls with
  | name =>
      have symbols :
          ("--" ++ flag.name ++ "=" ++ content).toList =
            '-' :: '-' :: (flag.name.toList ++ '=' :: content.toList) := by
        simp
      rw [takeAll_long symbols (by simp), takeLong,
        splitLong_joined (lawful.undivided flag known), String.ofList_toList]
      simp only [lawful.find?_name known]
  | @letter letter lettered =>
      have symbols :
          ("-" ++ letter.toString ++ "=" ++ content).toList =
            '-' :: letter :: '=' :: content.toList := by
        simp
      rw [takeAll_letter lawful known valued lettered symbols, attachedTo, String.ofList_toList]

/-- A value may be attached to the letter of its flag. -/
theorem takeAll_attached
    {letter : Char}
    {content : String}
    (lawful : Lawful flags)
    (known : flag ∈ flags)
    (valued : flag.kind = .valued kind)
    (lettered : flag.letter = some letter)
    (nonempty : content ≠ "")
    (undivided : content.toList.head? ≠ some '=') :
    takeAll (flags ++ commonFlags) (("-" ++ letter.toString ++ content) :: rest) state =
      state.takeFlag flag (some content) >>= takeAll (flags ++ commonFlags) rest := by
  have symbols :
      ("-" ++ letter.toString ++ content).toList = '-' :: letter :: content.toList := by
    simp
  have attached : attachedTo content.toList = some content := by
    unfold attachedTo
    split
    next same => simp_all
    next same => simp_all
    next => simp
  rw [takeAll_letter lawful known valued lettered symbols, attached]

end

/-! ## Lines of options -/

/-- Give options in order. -/
def giveAll :
    List (String × Value) → State → Except Fault State
  | [], state => .ok state
  | option :: options, state => do
      giveAll options (← state.give option.1 (.ok option.2))

/-- The line completes what has been left open and goes on from there. -/
def GoesOn
    (flags : List Flag)
    (line : List String)
    (next : State → Except Fault State) :
    Prop :=
  ∀ state, takeAll flags line state = state.settle >>= next

section

variable
    {flags : List Flag}
    {line words : List String}
    {next : State → Except Fault State}
    {option : String × Value}

theorem goesOn_nil :
    GoesOn flags [] .ok := by
  intro state
  rw [takeAll]
  exact (bind_pure state.settle).symm

/-- An option in one word is complete at its end. -/
theorem GoesOn.of_word
    {word name : String}
    {value : Except Fault Value}
    (goesOn : GoesOn flags line next)
    (gives : ∀ state, takeAll flags (word :: line) state =
      (state.settle >>= State.give name value) >>= takeAll flags line) :
    GoesOn flags (word :: line) (fun state => state.give name value >>= next) := by
  intro state
  rw [gives state]
  cases settles : state.settle with
  | error fault => rfl
  | ok settled =>
      change settled.give name value >>= _ = settled.give name value >>= next
      cases given : settled.give name value with
      | error fault => rfl
      | ok after =>
          have complete := (State.pending_of_give given).trans (State.pending_of_settle settles)
          exact (goesOn after).trans (by rw [State.settle_of_none complete])

/-- However an option is spelled, its value is given to its flag. -/
theorem GoesOn.of_spells
    (lawful : Lawful flags)
    (spells : Spells flags option words)
    (goesOn : GoesOn (flags ++ commonFlags) line next) :
    GoesOn (flags ++ commonFlags) (words ++ line)
      (fun state => state.give option.1 (.ok option.2) >>= next) := by
  cases spells with
  | switch known switch =>
      apply goesOn.of_word
      intro state
      rw [takeAll_name lawful known, State.takeFlag_switch switch]
  | joined known valued denotes calls =>
      apply goesOn.of_word
      intro state
      rw [takeAll_joined lawful known valued calls, State.takeFlag_attached valued denotes]
  | attached known valued denotes lettered nonempty undivided =>
      apply goesOn.of_word
      intro state
      rw [takeAll_attached lawful known valued lettered nonempty undivided,
        State.takeFlag_attached valued denotes]
  | @apart flag kind word content value known valued denotes calls alone =>
      intro state
      have taken :
          takeAll (flags ++ commonFlags) (word :: content :: line) state =
            (state.takeFlag flag none >>= State.takeContent content) >>=
              takeAll (flags ++ commonFlags) line := by
        rw [takeAll_calls lawful known valued calls, bind_assoc]
        congr 1
        funext opened
        exact takeAll_content alone
      rw [List.cons_append, List.cons_append, List.nil_append, taken,
        State.takeFlag_takeContent valued]
      cases settles : state.settle with
      | error fault => rfl
      | ok settled =>
          have completed :=
            State.settle_of_content flag.name (State.pending_of_settle settles) denotes
          exact (goesOn _).trans (congrArg (· >>= next) completed)

/-- A line of options gives them in order. -/
theorem goesOn_of_spelled
    (lawful : Lawful flags)
    {spelled : List ((String × Value) × List String)}
    (spells : ∀ entry ∈ spelled, Spells flags entry.1 entry.2) :
    GoesOn (flags ++ commonFlags) (spelled.flatMap Prod.snd) (giveAll (spelled.map Prod.fst)) := by
  induction spelled with
  | nil => exact goesOn_nil
  | cons entry spelled inductive_step =>
      have rest := inductive_step (fun other among => spells other (List.mem_cons_of_mem _ among))
      exact rest.of_spells lawful (spells entry List.mem_cons_self)

/-- Options can be given exactly if no flag is given twice. -/
theorem giveAll_eq
    (options : List (String × Value))
    (state : State)
    (distinct : (state.given.map Prod.fst).Nodup) :
    giveAll options state =
      if ((state.given ++ options).map Prod.fst).Nodup then
        .ok { state with given := state.given ++ options }
      else
        .error .repeated := by
  induction options generalizing state with
  | nil => simp [giveAll, distinct]
  | cons option options inductive_step =>
      by_cases again : option.1 ∈ state.given.map Prod.fst
      · have twice : ¬((state.given ++ option :: options).map Prod.fst).Nodup := by
          rw [List.map_append, List.nodup_append]
          intro differ
          exact differ.2.2 _ again _ List.mem_cons_self rfl
        rw [if_neg twice, giveAll, State.give_of_mem again]
        rfl
      · have extended : ((state.given ++ [option]).map Prod.fst).Nodup := by
          rw [List.map_append, List.nodup_append]
          refine ⟨distinct, List.nodup_singleton _, ?_⟩
          rintro name among other single rfl
          rw [List.map_singleton, List.mem_singleton] at single
          exact again (single ▸ among)
        have rest := inductive_step { state with given := state.given ++ [option] } extended
        rw [List.append_assoc, List.singleton_append] at rest
        rw [giveAll, State.give_of_not_mem again]
        exact rest

/-- A line of options is read as these options, unless a flag is given twice. -/
theorem read_of_spelled
    (lawful : Lawful flags)
    {spelled : List ((String × Value) × List String)}
    (spells : ∀ entry ∈ spelled, Spells flags entry.1 entry.2) :
    read flags (spelled.flatMap Prod.snd) =
      if ((spelled.map Prod.fst).map Prod.fst).Nodup then
        .ok (spelled.map Prod.fst)
      else
        .error .repeated := by
  have runs := goesOn_of_spelled lawful spells {}
  rw [State.settle_of_none rfl] at runs
  have gives : takeAll (flags ++ commonFlags) (spelled.flatMap Prod.snd) {} =
      giveAll (spelled.map Prod.fst) {} := runs
  rw [read, gives, giveAll_eq (spelled.map Prod.fst) {} List.nodup_nil, List.nil_append]
  split <;> rfl

end

end DnsOverQuic.Arguments
