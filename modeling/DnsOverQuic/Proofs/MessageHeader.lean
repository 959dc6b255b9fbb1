import DnsOverQuic.Dns.Codec
import Mathlib.Tactic.Common

/-!
# The identifier in the octets of a message

The first two octets of a message are its identifier, both when it is read and
when it is written, and nothing else that is written depends on the identifier.
So a message that is read from what was written has the identifier that was
written.  A message with nothing in it is a bare header, and is read back.
-/

namespace DnsOverQuic

namespace Octets

theorem toNat_toUInt16
    (high low : UInt8) :
    (toUInt16 high low).toNat = high.toNat * 256 + low.toNat := by
  have highSmall : high.toNat < 2 ^ 8 := high.toNat_lt
  have lowSmall : low.toNat < 2 ^ 8 := low.toNat_lt
  have shifted : high.toNat <<< 8 % 2 ^ 16 = high.toNat <<< 8 := by
    rw [Nat.shiftLeft_eq]
    omega
  rw [toUInt16, UInt16.toNat_or, UInt16.toNat_shiftLeft]
  simp only [UInt8.toNat_toUInt16, UInt16.reduceToNat, Nat.reduceMod]
  rw [shifted, ← Nat.shiftLeft_add_eq_or_of_lt lowSmall, Nat.shiftLeft_eq]

theorem toUInt16_ofUInt16
    (word : UInt16) :
    toUInt16 (word >>> 8).toUInt8 word.toUInt8 = word := by
  have small : word.toNat < 2 ^ 16 := word.toNat_lt
  apply UInt16.toNat_inj.mp
  rw [toNat_toUInt16]
  simp only [UInt16.toNat_toUInt8, UInt16.toNat_shiftRight, UInt16.reduceToNat, Nat.reduceMod,
    Nat.shiftRight_eq_div_pow]
  omega

theorem ofUInt16_toUInt16
    (high low : UInt8) :
    ofUInt16 (toUInt16 high low) = [high, low] := by
  have highSmall : high.toNat < 2 ^ 8 := high.toNat_lt
  have lowSmall : low.toNat < 2 ^ 8 := low.toNat_lt
  have first : (toUInt16 high low >>> 8).toUInt8 = high := by
    apply UInt8.toNat_inj.mp
    rw [UInt16.toNat_toUInt8, UInt16.toNat_shiftRight, toNat_toUInt16]
    simp only [UInt16.reduceToNat, Nat.reduceMod, Nat.shiftRight_eq_div_pow]
    omega
  have second : (toUInt16 high low).toUInt8 = low := by
    apply UInt8.toNat_inj.mp
    rw [UInt16.toNat_toUInt8, toNat_toUInt16]
    omega
  rw [ofUInt16, first, second]

theorem toNat_toUInt32
    (high low : UInt16) :
    (toUInt32 high low).toNat = high.toNat * 65536 + low.toNat := by
  have highSmall : high.toNat < 2 ^ 16 := high.toNat_lt
  have lowSmall : low.toNat < 2 ^ 16 := low.toNat_lt
  have shifted : high.toNat <<< 16 % 2 ^ 32 = high.toNat <<< 16 := by
    rw [Nat.shiftLeft_eq]
    omega
  rw [toUInt32, UInt32.toNat_or, UInt32.toNat_shiftLeft]
  simp only [UInt16.toNat_toUInt32, UInt32.reduceToNat, Nat.reduceMod]
  rw [shifted, ← Nat.shiftLeft_add_eq_or_of_lt lowSmall, Nat.shiftLeft_eq]

theorem toUInt32_ofUInt32
    (word : UInt32) :
    toUInt32
      (toUInt16 (word >>> 24).toUInt8 (word >>> 16).toUInt8)
      (toUInt16 (word >>> 8).toUInt8 word.toUInt8) = word := by
  have small : word.toNat < 2 ^ 32 := word.toNat_lt
  apply UInt32.toNat_inj.mp
  rw [toNat_toUInt32, toNat_toUInt16, toNat_toUInt16]
  simp only [UInt32.toNat_toUInt8, UInt32.toNat_shiftRight, UInt32.reduceToNat, Nat.reduceMod,
    Nat.shiftRight_eq_div_pow]
  omega

/-- Octets that begin with a word begin with no other word. -/
theorem eq_of_ofUInt16_append
    {first second : UInt16}
    {tail tail' : Octets}
    (same : ofUInt16 first ++ tail = ofUInt16 second ++ tail') :
    first = second := by
  simp only [ofUInt16, List.cons_append, List.nil_append, List.cons.injEq] at same
  rcases same with ⟨high, low, -⟩
  rw [← toUInt16_ofUInt16 first, high, low, toUInt16_ofUInt16]

end Octets

theorem bind_of_eq_ok
    {ε α β : Type}
    {computation : Except ε α}
    {next : α → Except ε β}
    {intermediate : α}
    (succeeded : computation = .ok intermediate) :
    computation >>= next = next intermediate := by
  rw [succeeded]
  rfl

/-- A sequence of two computations succeeds if both do. -/
theorem exists_of_bind_eq_ok
    {ε α β : Type}
    {computation : Except ε α}
    {next : α → Except ε β}
    {result : β}
    (succeeded : computation >>= next = .ok result) :
    ∃ intermediate, computation = .ok intermediate ∧ next intermediate = .ok result := by
  cases computation with
  | error reason => cases succeeded
  | ok intermediate => exact ⟨intermediate, rfl, succeeded⟩

namespace Dns

namespace Wire

/-- A word that is read is what the octets at the cursor begin with. -/
theorem Cursor.rest_of_word
    {cursor next : Cursor}
    {word : UInt16}
    (read : cursor.word = .ok (word, next)) :
    cursor.rest = Octets.ofUInt16 word ++ next.rest := by
  unfold Cursor.word at read
  split at read
  next high low rest equation =>
    cases read
    rw [equation, Octets.ofUInt16_toUInt16]
    rfl
  next => cases read

@[simp]
theorem id_completeHeader
    (header : Header)
    (extension : Option Record) :
    (completeHeader header extension).id = header.id := by
  cases extension <;> rfl

end Wire

namespace Message

open Wire

/-- The octets of a message begin with its identifier. -/
theorem exists_tail_of_decode
    {octets : Octets}
    {message : Message}
    (decoded : decode octets = .ok message) :
    ∃ tail, octets = Octets.ofUInt16 message.id ++ tail := by
  rcases exists_of_bind_eq_ok decoded with ⟨⟨id, behind⟩, word, rest⟩
  have start : octets = Octets.ofUInt16 id ++ behind.rest := Cursor.rest_of_word word
  rcases exists_of_bind_eq_ok rest with ⟨⟨first, cursor⟩, -, rest⟩
  rcases exists_of_bind_eq_ok rest with ⟨⟨second, cursor⟩, -, rest⟩
  rcases exists_of_bind_eq_ok rest with ⟨⟨questionCount, cursor⟩, -, rest⟩
  rcases exists_of_bind_eq_ok rest with ⟨⟨answerCount, cursor⟩, -, rest⟩
  rcases exists_of_bind_eq_ok rest with ⟨⟨authorityCount, cursor⟩, -, rest⟩
  rcases exists_of_bind_eq_ok rest with ⟨⟨additionalCount, cursor⟩, -, rest⟩
  rcases exists_of_bind_eq_ok rest with ⟨⟨questions, cursor⟩, -, rest⟩
  rcases exists_of_bind_eq_ok rest with ⟨⟨answers, cursor⟩, -, rest⟩
  rcases exists_of_bind_eq_ok rest with ⟨⟨authorities, cursor⟩, -, rest⟩
  rcases exists_of_bind_eq_ok rest with ⟨⟨additionals, cursor⟩, -, rest⟩
  rcases exists_of_bind_eq_ok rest with ⟨⟨others, extension⟩, -, rest⟩
  cases rest
  refine ⟨behind.rest, start.trans ?_⟩
  rw [Message.id, id_completeHeader]
  rfl

/-- What is written behind the identifier does not depend on the identifier. -/
@[simp]
theorem tail?_withId
    (message : Message)
    (id : UInt16) :
    (message.withId id).tail? = message.tail? :=
  rfl

/-- What is written of a message is its identifier and what does not depend on it. -/
theorem encode?_eq_some_iff
    {message : Message}
    {octets : Octets} :
    message.encode? = some octets ↔
      ∃ tail, message.tail? = some tail ∧ octets = Octets.ofUInt16 message.id ++ tail := by
  rw [encode?, Option.map_eq_some_iff]
  constructor
  · rintro ⟨tail, written, same⟩
    exact ⟨tail, written, same.symm⟩
  · rintro ⟨tail, written, same⟩
    exact ⟨tail, written, same.symm⟩

/-- A message that is read has the identifier of the message that was written. -/
theorem id_of_decode_of_encode?
    {written read : Message}
    {octets : Octets}
    (encoded : written.encode? = some octets)
    (decoded : decode octets = .ok read) :
    read.id = written.id := by
  rcases encode?_eq_some_iff.mp encoded with ⟨tail, -, same⟩
  rcases exists_tail_of_decode decoded with ⟨tail', same'⟩
  exact Octets.eq_of_ofUInt16_append (same'.symm.trans same)

theorem tail?_empty :
    empty.tail? = some (List.replicate 10 0) := by
  decide

/-- A message with nothing in it can be written under every identifier. -/
theorem encode?_empty_withId
    (id : UInt16) :
    (empty.withId id).encode? = some (Octets.ofUInt16 id ++ List.replicate 10 0) :=
  encode?_eq_some_iff.mpr ⟨_, tail?_empty, rfl⟩

theorem decode_empty_withId
    (id : UInt16) :
    decode (Octets.ofUInt16 id ++ List.replicate 10 0) = .ok (empty.withId id) := by
  conv =>
    rhs
    rw [← Octets.toUInt16_ofUInt16 id]
  rfl

end Message

theorem Codec.decode_wire_eq_some_iff
    {octets : Octets}
    {message : Message} :
    wire.decode octets = some message ↔ Message.decode octets = .ok message := by
  change (Message.decode octets).toOption = some message ↔ _
  cases Message.decode octets with
  | error malformation => simp [Except.toOption]
  | ok read => simp [Except.toOption]

end Dns

end DnsOverQuic
