import Hotload.Deflate.Coded
import Hotload.Proofs.BytePlaces
import Mathlib.Algebra.Group.Nat.Defs

/-!
# Streams read back

What `deflate` writes inflates to the content it was made of. A coded stream is taken only after it
has been inflated on trial, so what remains is the stored form: its blocks start at whole bytes, and
each of them is read with one unit of fuel.
-/

namespace Hotload.Deflate

open Bytes (At littleEndian ofLittleEndian)

variable {input : Array UInt8} {offset : Nat}

/-- Bits inside one byte are a range of its binary digits. -/
theorem bits_within {byte : UInt8} (inside : input[offset]? = some byte) (count shift : Nat)
    (room : shift + count ≤ 8) :
    bits input count (8 * offset + shift) =
      .value (byte.toNat / 2 ^ shift % 2 ^ count) (8 * offset + shift + count) := by
  induction count generalizing shift with
  | zero => simp [bits, Nat.mod_one]
  | succ count inductionHypothesis =>
    have here : (8 * offset + shift) / 8 = offset := by omega
    have digit : (8 * offset + shift) % 8 = shift := by omega
    have first : bit input (8 * offset + shift) =
        .value (byte.toNat / 2 ^ shift % 2) (8 * offset + (shift + 1)) := by
      rw [bit, here, inside, digit]
      simp only [Nat.testBit_eq_decide_div_mod_eq]
      rcases Nat.mod_two_eq_zero_or_one (byte.toNat / 2 ^ shift) with even | odd
      · simp [even, Nat.add_assoc]
      · simp [odd, Nat.add_assoc]
    have quotient : byte.toNat / 2 ^ (shift + 1) = byte.toNat / 2 ^ shift / 2 := by
      rw [Nat.pow_succ, Nat.div_div_eq_div_mul]
    rw [bits, first]
    simp only [Read.andThen]
    rw [inductionHypothesis (shift + 1) (by omega), quotient, Nat.pow_succ', Nat.mod_mul]
    simp only [Read.value.injEq, true_and]
    omega

/-- A longer read is a shorter one that goes on. -/
theorem bits_add (count more position : Nat) :
    bits input (count + more) position =
      (bits input count position).andThen fun low middle =>
        (bits input more middle).andThen fun high last => .value (low + 2 ^ count * high) last := by
  induction count generalizing position with
  | zero =>
    simp only [bits, Nat.zero_add, Read.andThen, Nat.pow_zero, Nat.one_mul]
    cases bits input more position <;> rfl
  | succ count inductionHypothesis =>
    rw [Nat.add_right_comm, bits, bits]
    cases bit input position with
    | value low middle =>
      simp only [Read.andThen, inductionHypothesis]
      cases bits input count middle with
      | value high last =>
        simp only []
        cases bits input more last with
        | value top position =>
          simp only [Read.value.injEq, and_true, Nat.pow_succ', Nat.mul_add, Nat.mul_assoc]
          omega
        | starved => rfl
        | malformed => rfl
      | starved => rfl
      | malformed => rfl
    | starved => rfl
    | malformed => rfl

/-- Bits that are whole bytes spell the number that the bytes do. -/
theorem bits_bytes {whole piece : Bytes} (place : At whole offset piece) :
    bits whole.toArray (8 * piece.length) (8 * offset) =
      .value (littleEndian piece) (8 * (offset + piece.length)) := by
  induction piece generalizing offset with
  | nil => rfl
  | cons byte rest inductionHypothesis =>
    have first := bits_within place.byte 8 0 (by decide)
    have small : byte.toNat % 2 ^ 8 = byte.toNat := Nat.mod_eq_of_lt byte.toNat_lt
    rw [Nat.add_zero, Nat.pow_zero, Nat.div_one, small] at first
    have split : 8 * (byte :: rest).length = 8 + 8 * rest.length := by
      simp only [List.length_cons]; omega
    rw [split, bits_add, first]
    simp only [Read.andThen]
    rw [show 8 * offset + 8 = 8 * (offset + 1) by omega, inductionHypothesis place.rest]
    simp only [littleEndian, List.length_cons, Read.value.injEq, Nat.reducePow, true_and]
    omega

section Blocks

variable {whole content : Bytes}

/-- A stored block that starts after its mark is read to its end. -/
theorem readStored_block (position : Nat) (output : Array UInt8)
    (start : (position + 7) / 8 = offset) (fits : content.length < 65536)
    (place : At whole offset (ofLittleEndian 2 content.length
      ++ ofLittleEndian 2 (65535 - content.length) ++ content)) :
    readStored whole.toArray position output =
      .reached (output ++ content.toArray) (8 * (offset + 4 + content.length)) := by
  have lengthRead := bits_bytes place.front.front
  have inverseRead := bits_bytes place.front.back
  have body := place.back.extract
  rw [Bytes.length_ofLittleEndian, Bytes.littleEndian_ofLittleEndian _ _ (by simpa using fits)]
    at lengthRead
  rw [Bytes.length_ofLittleEndian, Bytes.length_ofLittleEndian,
    Bytes.littleEndian_ofLittleEndian _ _ (by simp; omega)] at inverseRead
  have bodyArray : whole.toArray.extract (offset + 4) (offset + 4 + content.length) =
      content.toArray := by
    apply Array.toList_inj.mp
    simpa [Nat.add_assoc] using body
  have sum : ¬(content.length + (65535 - content.length) ≠ 65535) := by omega
  rw [readStored, start, lengthRead, show 8 * offset + 16 = 8 * (offset + 2) by omega, inverseRead]
  simp only [sum, if_false, bodyArray, List.size_toArray, Nat.lt_irrefl]

/-- One stored block takes one unit of fuel. -/
theorem readBlocks_stored (last : Bool) (fuel : Nat) (output : Array UInt8)
    (fits : content.length < 65536) (place : At whole offset (storedBlock last content)) :
    readBlocks whole.toArray (fuel + 1) (8 * offset) output =
      if last then .complete (output.toList ++ content)
      else readBlocks whole.toArray fuel (8 * (offset + 5 + content.length))
        (output ++ content.toArray) := by
  have body := place
  simp only [storedBlock, List.cons_append] at body
  have markAt := body.byte
  have lastRead := bits_within markAt 1 0 (by decide)
  have kindRead := bits_within markAt 2 1 (by decide)
  have stored := readStored_block (8 * offset + 3) output (by omega) fits body.rest
  have kind : (if last then (1 : UInt8) else 0).toNat / 2 ^ 1 % 2 ^ 2 = 0 := by
    cases last <;> rfl
  rw [kind] at kindRead
  rw [Nat.add_zero] at lastRead
  rw [readBlocks, lastRead, kindRead]
  simp only [stored]
  cases last <;>
    simp [Nat.add_assoc, Nat.add_comm, Nat.add_left_comm]

/-- Stored blocks hold at least the content. -/
theorem length_storeFrom (fuel : Nat) (content : Bytes) :
    content.length ≤ (storeFrom fuel content).length := by
  induction fuel generalizing content with
  | zero => simp [storeFrom, storedBlock]; omega
  | succ fuel inductionHypothesis =>
    rw [storeFrom]
    split
    · simp [storedBlock]; omega
    · have rest := inductionHypothesis (content.drop blockSize)
      simp only [List.length_append, storedBlock, List.length_cons, List.length_take,
        List.length_drop] at rest ⊢
      omega

/-- Stored blocks are read one after the other up to the last. -/
theorem readBlocks_storeFrom (fuel readFuel : Nat) (output : Array UInt8)
    (enough : content.length ≤ fuel) (more : fuel < readFuel)
    (place : At whole offset (storeFrom fuel content)) :
    readBlocks whole.toArray readFuel (8 * offset) output =
      .complete (output.toList ++ content) := by
  induction fuel generalizing content readFuel output offset with
  | zero =>
    obtain ⟨readFuel, rfl⟩ := Nat.exists_eq_succ_of_ne_zero (Nat.ne_zero_of_lt more)
    exact readBlocks_stored true readFuel output (by omega) place
  | succ fuel inductionHypothesis =>
    obtain ⟨readFuel, rfl⟩ := Nat.exists_eq_succ_of_ne_zero (Nat.ne_zero_of_lt more)
    rw [storeFrom] at place
    split at place
    case isTrue small =>
      exact readBlocks_stored true readFuel output (by unfold blockSize at small; omega) place
    case isFalse large =>
      have taken : (content.take blockSize).length = blockSize := by
        rw [List.length_take]; omega
      have first := readBlocks_stored false readFuel output (by rw [taken]; decide) place.front
      have after := place.back
      have blockLength : (storedBlock false (content.take blockSize)).length = 5 + blockSize := by
        simp [storedBlock, taken]; omega
      rw [blockLength] at after
      have rest := inductionHypothesis readFuel (output ++ (content.take blockSize).toArray)
        (by rw [List.length_drop]; unfold blockSize at large ⊢; omega) (by omega) after
      rw [first, taken, Nat.add_assoc, if_neg Bool.false_ne_true, rest]
      simp [List.append_assoc]

end Blocks

/-- A stored stream inflates to its content. -/
theorem inflate_store (content : Bytes) : inflate (store content) = .complete content := by
  have long := length_storeFrom content.length content
  have read := readBlocks_storeFrom content.length (8 * (store content).length + 1) #[]
    (Nat.le_refl _) (by unfold store; omega) (Bytes.at_start (store content))
  simpa [inflate] using read

/-- What is deflated inflates to what it was. -/
theorem inflate_deflate (content : Bytes) : inflate (deflate content) = .complete content := by
  unfold deflate
  split
  · exact inflate_store content
  · dsimp only
    split
    · exact inflate_store content
    · split
      · next output inflated =>
        split
        · next same => rw [inflated, same]
        · exact inflate_store content
      · exact inflate_store content

end Hotload.Deflate
