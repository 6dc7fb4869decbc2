import Hotload.Bytes

/-!
# Where bytes stand

Binary formats are written by putting pieces one after the other, and read by looking at offsets.
`Bytes.At` says that a piece stands at an offset. It comes apart as the piece does, so what is read
at an offset follows from how the whole was put together.
-/

namespace Hotload.Bytes

/-- The piece stands at the offset. -/
def At (input : Bytes) (offset : Nat) (piece : Bytes) : Prop :=
  ∃ before after, input = before ++ piece ++ after ∧ before.length = offset

variable {input piece early late : Bytes} {offset : Nat}

/-- The whole stands at the start. -/
theorem at_start (input : Bytes) : At input 0 input :=
  ⟨[], [], by simp⟩

/-- A piece that stands somewhere ends within the whole. -/
theorem At.fits (place : At input offset piece) : offset + piece.length ≤ input.length := by
  obtain ⟨before, after, rfl, rfl⟩ := place
  simp [List.length_append]

/-- The first part of a piece stands where the piece does. -/
theorem At.front (place : At input offset (early ++ late)) : At input offset early := by
  obtain ⟨before, after, rfl, length⟩ := place
  exact ⟨before, late ++ after, by simp [List.append_assoc], length⟩

/-- The second part stands behind the first. -/
theorem At.back (place : At input offset (early ++ late)) :
    At input (offset + early.length) late := by
  obtain ⟨before, after, rfl, rfl⟩ := place
  exact ⟨before ++ early, after, by simp [List.append_assoc], by simp⟩

/-- Two pieces stand one behind the other as soon as each stands in its place. -/
theorem at_append : At input offset (early ++ late) ↔
    At input offset early ∧ At input (offset + early.length) late := by
  constructor
  · intro place
    exact ⟨place.front, place.back⟩
  · rintro ⟨⟨before, after, whole, rfl⟩, prefixed, rest, again, length⟩
    have same : prefixed ++ late ++ rest = before ++ early ++ after := again.symm.trans whole
    rw [List.append_assoc prefixed] at same
    obtain ⟨rfl, rfl⟩ := List.append_inj same (by simpa using length)
    exact ⟨before, rest, by rw [whole]; simp [List.append_assoc], rfl⟩

/-- Nothing stands everywhere up to the end. -/
theorem at_nil (inside : offset ≤ input.length) : At input offset [] :=
  ⟨input.take offset, input.drop offset, by simp, by simp [inside]⟩

/-- The byte at the start of a piece. -/
theorem At.byte {first : UInt8} {rest : Bytes} (place : At input offset (first :: rest)) :
    input.toArray[offset]? = some first := by
  obtain ⟨before, after, rfl, rfl⟩ := place
  simp

/-- Behind the first byte of a piece stands the rest of it. -/
theorem At.rest {first : UInt8} {rest : Bytes} (place : At input offset (first :: rest)) :
    At input (offset + 1) rest := by
  rw [← List.singleton_append] at place
  exact place.back

/-- A slice as long as the piece is the piece. -/
theorem At.slice (place : At input offset piece) : slice input offset piece.length = piece := by
  obtain ⟨before, after, rfl, rfl⟩ := place
  exact slice_middle before piece after

/-- What is taken out of an array at the offset of a piece, as long as the piece, is the piece. -/
theorem At.extract (place : At input offset piece) :
    (input.toArray.extract offset (offset + piece.length)).toList = piece := by
  obtain ⟨before, after, rfl, rfl⟩ := place
  simp

end Hotload.Bytes
