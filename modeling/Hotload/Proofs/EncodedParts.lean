import Hotload.Text.Base64

/-!
# Base64 in parts

Base64 takes three bytes at a time, so a content may be cut after any number of whole groups without
a change in the characters. A text that is cut into parts of whole groups is therefore read back in
two ways: all parts together give the content, and each part alone gives the bytes that it was made
of. Only the last group is ever padded, hence only the last part.
-/

namespace Hotload.Text.Base64

/-! ## Reading back -/

/-- A character of the alphabet is read as the value that it stands for. -/
theorem value?_symbol {value : Nat} (small : value < 64) : value? (symbol value) = some value := by
  have all : ∀ value < 64, value? (symbol value) = some value := by decide
  exact all value small

/-- The padding is no character of the alphabet. -/
theorem symbol_ne_padding {value : Nat} (small : value < 64) : symbol value ≠ '=' := by
  have all : ∀ value < 64, symbol value ≠ '=' := by decide
  exact all value small

/-- A group without padding is read as three bytes. -/
theorem decode?_group {first second third fourth : Nat} (one : first < 64) (two : second < 64)
    (three : third < 64) (four : fourth < 64) (rest : List Char) :
    decode? (symbol first :: symbol second :: symbol third :: symbol fourth :: rest) =
      (decode? rest).map fun others =>
        UInt8.ofNat (first * 4 + second / 16) :: UInt8.ofNat (second % 16 * 16 + third / 4)
          :: UInt8.ofNat (third % 4 * 64 + fourth) :: others := by
  have unpadded := symbol_ne_padding four
  rw [decode?]
  · rw [value?_symbol one, value?_symbol two, value?_symbol three, value?_symbol four]
    cases decode? rest <;> rfl
  · intro _ last _
    exact unpadded last
  · intro last _
    exact unpadded last

/-- A group with one padding is read as two bytes. -/
theorem decode?_two {first second third : Nat} (one : first < 64) (two : second < 64)
    (three : third < 64) (canonical : third % 4 = 0) :
    decode? [symbol first, symbol second, symbol third, '='] =
      some [UInt8.ofNat (first * 4 + second / 16), UInt8.ofNat (second % 16 * 16 + third / 4)] := by
  rw [decode?]
  · rw [value?_symbol one, value?_symbol two, value?_symbol three]
    exact if_pos canonical
  · exact symbol_ne_padding three

/-- A group with two paddings is read as one byte. -/
theorem decode?_one {first second : Nat} (one : first < 64) (two : second < 64)
    (canonical : second % 16 = 0) :
    decode? [symbol first, symbol second, '=', '='] =
      some [UInt8.ofNat (first * 4 + second / 16)] := by
  rw [decode?, value?_symbol one, value?_symbol two]
  exact if_pos canonical

/-- What was encoded is read back. -/
theorem decode?_encode (content : Bytes) : decode? (encode content) = some content := by
  fun_induction encode content with
  | case1 a b c rest group inductionHypothesis =>
    have sizes := And.intro a.toNat_lt (And.intro b.toNat_lt c.toNat_lt)
    have large : group = (a.toNat * 256 + b.toNat) * 256 + c.toNat := rfl
    rw [decode?_group (by omega) (by omega) (by omega) (by omega), inductionHypothesis]
    have high : group / 262144 * 4 + group / 4096 % 64 / 16 = a.toNat := by omega
    have middle : group / 4096 % 64 % 16 * 16 + group / 64 % 64 / 4 = b.toNat := by omega
    have low : group / 64 % 64 % 4 * 64 + group % 64 = c.toNat := by omega
    simp only [high, middle, low, UInt8.ofNat_toNat, Option.map_some]
  | case2 a b group =>
    have sizes := And.intro a.toNat_lt b.toNat_lt
    have large : group = (a.toNat * 256 + b.toNat) * 4 := rfl
    rw [decode?_two (by omega) (by omega) (by omega) (by omega)]
    have high : group / 4096 * 4 + group / 64 % 64 / 16 = a.toNat := by omega
    have low : group / 64 % 64 % 16 * 16 + group % 64 / 4 = b.toNat := by omega
    simp only [high, low, UInt8.ofNat_toNat]
  | case3 a group =>
    have size := a.toNat_lt
    have large : group = a.toNat * 16 := rfl
    rw [decode?_one (by omega) (by omega) (by omega)]
    have all : group / 64 * 4 + group % 64 / 16 = a.toNat := by omega
    simp only [all, UInt8.ofNat_toNat]
  | case4 => rfl

/-! ## Encoding in parts -/

/-- Every three bytes take four characters, and so do those that remain. -/
theorem length_encode (content : Bytes) : (encode content).length = 4 * ((content.length + 2) / 3) := by
  fun_induction encode content with
  | case1 a b c rest group inductionHypothesis =>
    simp only [List.length_cons, inductionHypothesis]
    omega
  | case2 | case3 | case4 => simp

/-- A content is encoded group by group: a first part of whole groups is encoded alone. -/
theorem encode_append {groups : Nat} (front back : Bytes) (whole : front.length = 3 * groups) :
    encode (front ++ back) = encode front ++ encode back := by
  induction groups generalizing front with
  | zero =>
    obtain rfl := List.length_eq_zero_iff.mp whole
    rfl
  | succ groups inductionHypothesis =>
    obtain ⟨a, b, c, rest, rfl⟩ : ∃ a b c rest, front = a :: b :: c :: rest := by
      match front, whole with
      | a :: b :: c :: rest, _ => exact ⟨a, b, c, rest, rfl⟩
    have shorter : rest.length = 3 * groups := by
      simp only [List.length_cons] at whole
      omega
    simp only [List.cons_append, encode, inductionHypothesis rest shorter]

/-- The characters of the first groups encode the bytes of these groups, and those after them encode
the bytes after them. -/
theorem encode_split (groups : Nat) (content : Bytes) :
    (encode content).take (4 * groups) = encode (content.take (3 * groups)) ∧
      (encode content).drop (4 * groups) = encode (content.drop (3 * groups)) := by
  by_cases enough : 3 * groups ≤ content.length
  · have whole : (content.take (3 * groups)).length = 3 * groups := List.length_take_of_le enough
    have width : (encode (content.take (3 * groups))).length = 4 * groups := by
      rw [length_encode, whole]
      omega
    have apart : encode content =
        encode (content.take (3 * groups)) ++ encode (content.drop (3 * groups)) := by
      rw [← encode_append _ _ whole, List.take_append_drop]
    rw [apart, ← width]
    exact ⟨List.take_left, List.drop_left⟩
  · have short : (encode content).length ≤ 4 * groups := by
      rw [length_encode]
      omega
    rw [List.take_of_length_le short, List.drop_of_length_le short,
      List.take_of_length_le (by omega), List.drop_of_length_le (by omega)]
    exact ⟨rfl, rfl⟩

/-! ## Parts of a list -/

section Parts

variable {α : Type} {size : Nat}

/-- Enough fuel cuts everything: a part begins wherever the list has an element. -/
theorem getElem?_chunksFrom (positive : 0 < size) (fuel : Nat) (elements : List α)
    (enough : elements.length ≤ fuel) (index : Nat) :
    (chunksFrom size fuel elements)[index]? =
      if index * size < elements.length then some ((elements.drop (index * size)).take size)
      else none := by
  induction fuel generalizing elements index with
  | zero =>
    obtain rfl := List.length_eq_zero_iff.mp (Nat.le_zero.mp enough)
    simp [chunksFrom]
  | succ fuel inductionHypothesis =>
    cases elements with
    | nil => simp [chunksFrom]
    | cons first rest =>
      have shorter : ((first :: rest).drop size).length ≤ fuel := by
        simp only [List.length_drop, List.length_cons] at enough ⊢
        omega
      cases index with
      | zero => simp [chunksFrom]
      | succ index =>
        have later : (index + 1) * size = size + index * size := by
          rw [Nat.succ_mul, Nat.add_comm]
        have inside : index * size < (first :: rest).length - size ↔
            size + index * size < (first :: rest).length := by omega
        rw [chunksFrom, List.getElem?_cons_succ, inductionHypothesis _ shorter, List.length_drop,
          List.drop_drop, later]
        simp only [inside]

theorem getElem?_chunks (positive : 0 < size) (elements : List α) (index : Nat) :
    (chunks size elements)[index]? =
      if index * size < elements.length then some ((elements.drop (index * size)).take size)
      else none :=
  getElem?_chunksFrom positive _ elements (Nat.le_refl _) index

/-- The parts together are the list. -/
theorem flatten_chunksFrom (positive : 0 < size) (fuel : Nat) (elements : List α)
    (enough : elements.length ≤ fuel) : (chunksFrom size fuel elements).flatten = elements := by
  induction fuel generalizing elements with
  | zero =>
    obtain rfl := List.length_eq_zero_iff.mp (Nat.le_zero.mp enough)
    rfl
  | succ fuel inductionHypothesis =>
    cases elements with
    | nil => rfl
    | cons first rest =>
      have shorter : ((first :: rest).drop size).length ≤ fuel := by
        simp only [List.length_drop, List.length_cons] at enough ⊢
        omega
      rw [chunksFrom, List.flatten_cons, inductionHypothesis _ shorter, List.take_append_drop]

theorem flatten_chunks (positive : 0 < size) (elements : List α) :
    (chunks size elements).flatten = elements :=
  flatten_chunksFrom positive _ elements (Nat.le_refl _)

end Parts

/-- Parts of four characters for every three bytes encode the parts of the content. -/
theorem chunks_encode {groups : Nat} (positive : 0 < groups) (content : Bytes) :
    chunks (4 * groups) (encode content) = (chunks (3 * groups) content).map encode := by
  apply List.ext_getElem?
  intro index
  have begins : index * (4 * groups) < (encode content).length ↔
      index * (3 * groups) < content.length := by
    rw [length_encode, Nat.mul_left_comm, Nat.mul_left_comm index 3]
    omega
  rw [List.getElem?_map, getElem?_chunks (by omega), getElem?_chunks (by omega)]
  simp only [begins]
  split
  · rw [Nat.mul_left_comm index 4, (encode_split _ _).2, (encode_split _ _).1,
      ← Nat.mul_left_comm index 3, Option.map_some]
  · rfl

end Hotload.Text.Base64
