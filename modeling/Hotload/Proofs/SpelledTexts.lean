import Hotload.Text.Utf8
import Hotload.Zip.CodePage

/-!
# Texts read back

A text that is written in UTF-8 is what the reader makes of its bytes. The reader takes the
characters off one after the other, so everything rests on the first character, where the four
lengths of a sequence are told apart by the leading byte. A text without characters beyond ASCII is
spelled alike in UTF-8 and in code page 437.
-/

namespace Hotload.Text

/-- The bytes of a text are those of its characters. -/
theorem utf8_eq (text : String) : utf8 text = text.toList.flatMap String.utf8EncodeChar := by
  have bytes : text.toByteArray = text.toList.utf8Encode := by
    have spelled := String.toByteArray_ofList (l := text.toList)
    rwa [String.ofList_toList] at spelled
  unfold utf8
  rw [String.toUTF8_eq_toByteArray, bytes, List.utf8Encode, List.data_toByteArray]

/-- A continuation byte. -/
def tail (value : Nat) : UInt8 :=
  UInt8.ofNat (value % 64 + 128)

theorem tail_toNat (value : Nat) : (tail value).toNat = value % 64 + 128 := by
  rw [tail, UInt8.toNat_ofNat']; omega

theorem isTail_tail (value : Nat) : isTail (tail value) = true := by
  have upper : value % 64 + 128 ≤ 191 := by omega
  simp [isTail, UInt8.le_iff_toNat_le, tail_toNat, upper]

/-- A continuation byte adds its six bits. -/
theorem takeTails_tail (tails taken value low : Nat) (rest : Bytes) :
    takeTails (tails + 1) taken value (tail low :: rest) =
      takeTails tails (taken + 1) (64 * value + low % 64) rest := by
  have bits : (low % 64 + 128) % 64 = low % 64 := by omega
  rw [takeTails, if_pos (isTail_tail low), tail_toNat, bits]

/-- The leading byte and the second one fit together in a sequence with so many tails. -/
def Leads (lead second : UInt8) (tails : Nat) : Prop :=
  ∃ low high, tailRange? lead = some (low, high, tails) ∧ low ≤ second ∧ second ≤ high

/-- Two bytes that fit together start a character of several bytes. -/
theorem firstChar_leads {lead second : UInt8} {tails value taken : Nat} {rest : Bytes}
    (fit : Leads lead second tails) (high : 128 ≤ lead.toNat)
    (rest_taken : takeTails (tails - 1) 2 (64 * leadBits lead tails + second.toNat % 64) rest =
      (some value, taken)) :
    firstChar lead (second :: rest) = (some (Char.ofNat value), taken) := by
  obtain ⟨low, top, range, atLeast, atMost⟩ := fit
  have beyond : ¬lead < 0x80 := by
    rw [UInt8.lt_iff_toNat_lt]
    exact Nat.not_lt.mpr high
  simp only [firstChar, beyond, if_false, range, atLeast, atMost, decide_true, Bool.and_self,
    if_true, rest_taken]

/-- The leading byte of two fits any continuation. -/
theorem leads_two {lead : UInt8} (low : Nat) (atLeast : 194 ≤ lead.toNat)
    (atMost : lead.toNat ≤ 223) : Leads lead (tail low) 1 := by
  have second := tail_toNat low
  refine ⟨0x80, 0xBF, ?_, ?_, ?_⟩
  · simp [tailRange?, UInt8.le_iff_toNat_le, atLeast, atMost]
  all_goals rw [UInt8.le_iff_toNat_le, second]; simp; try omega

/-- The leading byte of three fits, as long as the sequence is not overlong and no surrogate. -/
theorem leads_three {lead : UInt8} (low : Nat) (atLeast : 224 ≤ lead.toNat)
    (atMost : lead.toNat ≤ 239) (notOverlong : lead.toNat = 224 → 32 ≤ low % 64)
    (notSurrogate : lead.toNat = 237 → low % 64 < 32) : Leads lead (tail low) 2 := by
  have second := tail_toNat low
  have noTwo : ¬lead.toNat ≤ 223 := by omega
  by_cases first : lead.toNat = 224
  · have lead_eq : lead = 224 := UInt8.toNat_inj.mp first
    subst lead_eq
    refine ⟨0xA0, 0xBF, rfl, ?_, ?_⟩
    all_goals rw [UInt8.le_iff_toNat_le, second]; simp; have := notOverlong first; omega
  · by_cases late : lead.toNat = 237
    · have lead_eq : lead = 237 := UInt8.toNat_inj.mp late
      subst lead_eq
      refine ⟨0x80, 0x9F, rfl, ?_, ?_⟩
      all_goals rw [UInt8.le_iff_toNat_le, second]; simp; try have := notSurrogate late; omega
    · refine ⟨0x80, 0xBF, ?_, ?_, ?_⟩
      · have noFirst : lead ≠ 224 := fun same => first (by rw [same]; rfl)
        have noLate : lead ≠ 237 := fun same => late (by rw [same]; rfl)
        have least : 225 ≤ lead.toNat := by omega
        simp [tailRange?, UInt8.le_iff_toNat_le, noTwo, noFirst, noLate, least, atMost]
      all_goals rw [UInt8.le_iff_toNat_le, second]; simp; try omega

/-- The leading byte of four fits, as long as the sequence is not overlong and within Unicode. -/
theorem leads_four {lead : UInt8} (low : Nat) (atLeast : 240 ≤ lead.toNat)
    (atMost : lead.toNat ≤ 244) (notOverlong : lead.toNat = 240 → 16 ≤ low % 64)
    (notBeyond : lead.toNat = 244 → low % 64 < 16) : Leads lead (tail low) 3 := by
  have second := tail_toNat low
  have noTwo : ¬lead.toNat ≤ 223 := by omega
  have noThree : ¬lead.toNat ≤ 239 := by omega
  have noFirst : lead ≠ 224 := fun same => by rw [same] at atLeast; exact absurd atLeast (by decide)
  have noLate : lead ≠ 237 := fun same => by rw [same] at atLeast; exact absurd atLeast (by decide)
  by_cases first : lead.toNat = 240
  · have lead_eq : lead = 240 := UInt8.toNat_inj.mp first
    subst lead_eq
    refine ⟨0x90, 0xBF, rfl, ?_, ?_⟩
    all_goals rw [UInt8.le_iff_toNat_le, second]; simp; have := notOverlong first; omega
  · by_cases last : lead.toNat = 244
    · have lead_eq : lead = 244 := UInt8.toNat_inj.mp last
      subst lead_eq
      refine ⟨0x80, 0x8F, rfl, ?_, ?_⟩
      all_goals rw [UInt8.le_iff_toNat_le, second]; simp; try have := notBeyond last; omega
    · refine ⟨0x80, 0xBF, ?_, ?_, ?_⟩
      · have noForth : lead ≠ 240 := fun same => first (by rw [same]; rfl)
        have least : 241 ≤ lead.toNat := by omega
        have most : lead.toNat ≤ 243 := by omega
        simp [tailRange?, UInt8.le_iff_toNat_le, noTwo, noThree, noFirst, noLate, noForth, least,
          most]
      all_goals rw [UInt8.le_iff_toNat_le, second]; simp; try omega

section Lengths

variable {value : Nat} (others : Bytes)

theorem firstChar_one (small : value ≤ 127) :
    firstChar (UInt8.ofNat value) others = (some (Char.ofNat value), 1) := by
  have lead : (UInt8.ofNat value).toNat = value := by rw [UInt8.toNat_ofNat']; omega
  have below : UInt8.ofNat value < 0x80 := by
    rw [UInt8.lt_iff_toNat_lt, lead]; exact Nat.lt_succ_of_le small
  simp only [firstChar, if_pos below, lead]

theorem firstChar_two (large : 128 ≤ value) (small : value ≤ 2047) :
    firstChar (UInt8.ofNat (value / 64 % 32 + 192)) (tail value :: others) =
      (some (Char.ofNat value), 2) := by
  have lead : (UInt8.ofNat (value / 64 % 32 + 192)).toNat = value / 64 % 32 + 192 := by
    rw [UInt8.toNat_ofNat']; omega
  refine firstChar_leads (leads_two value (by omega) (by omega)) (by omega) ?_
  rw [takeTails, leadBits, lead, tail_toNat]
  simp only [Prod.mk.injEq, Option.some.injEq, and_true]
  omega

theorem firstChar_three (large : 2048 ≤ value) (small : value ≤ 65535)
    (valid : value < 55296 ∨ 57343 < value) :
    firstChar (UInt8.ofNat (value / 4096 % 16 + 224)) (tail (value / 64) :: tail value :: others) =
      (some (Char.ofNat value), 3) := by
  have lead : (UInt8.ofNat (value / 4096 % 16 + 224)).toNat = value / 4096 % 16 + 224 := by
    rw [UInt8.toNat_ofNat']; omega
  refine firstChar_leads (leads_three (value / 64) (by omega) (by omega) (by omega) (by omega))
    (by omega) ?_
  rw [takeTails_tail, takeTails, leadBits, lead, tail_toNat]
  simp only [Prod.mk.injEq, Option.some.injEq, and_true]
  omega

theorem firstChar_four (large : 65536 ≤ value) (small : value < 1114112) :
    firstChar (UInt8.ofNat (value / 262144 % 8 + 240))
        (tail (value / 4096) :: tail (value / 64) :: tail value :: others) =
      (some (Char.ofNat value), 4) := by
  have lead : (UInt8.ofNat (value / 262144 % 8 + 240)).toNat = value / 262144 % 8 + 240 := by
    rw [UInt8.toNat_ofNat']; omega
  refine firstChar_leads (leads_four (value / 4096) (by omega) (by omega) (by omega) (by omega))
    (by omega) ?_
  rw [takeTails_tail, takeTails_tail, takeTails, tail_toNat]
  simp only [leadBits, lead, Prod.mk.injEq, Option.some.injEq, and_true]
  omega

end Lengths

/-- A character is the first one of its own bytes, whatever follows them. -/
theorem firstChar_encoded (char : Char) :
    ∃ lead tails, String.utf8EncodeChar char = lead :: tails ∧
      ∀ others, firstChar lead (tails ++ others) = (some char, tails.length + 1) := by
  have valid : char.val.toNat < 55296 ∨ 57343 < char.val.toNat ∧ char.val.toNat < 1114112 :=
    char.valid
  have back : Char.ofNat char.val.toNat = char := Char.ofNat_toNat char
  unfold String.utf8EncodeChar
  generalize char.val.toNat = value at valid back ⊢
  subst back
  dsimp only
  split
  case isTrue one => exact ⟨_, _, rfl, fun others => firstChar_one others one⟩
  split
  case isTrue two => exact ⟨_, _, rfl, fun others => firstChar_two others (by omega) two⟩
  split
  case isTrue three =>
    exact ⟨_, _, rfl, fun others => firstChar_three others (by omega) three (by omega)⟩
  case isFalse four =>
    exact ⟨_, _, rfl, fun others => firstChar_four others (by omega) (by omega)⟩

/-- The characters of a text are read off its bytes one after the other. -/
theorem decodeParts_encoded (chars : List Char) (fuel : Nat)
    (enough : (chars.flatMap String.utf8EncodeChar).length ≤ fuel) :
    decodeParts fuel (chars.flatMap String.utf8EncodeChar) = chars.map some := by
  induction chars generalizing fuel with
  | nil => cases fuel <;> rfl
  | cons char rest inductionHypothesis =>
    obtain ⟨lead, tails, bytes, first⟩ := firstChar_encoded char
    rw [List.flatMap_cons, bytes, List.cons_append] at enough ⊢
    rw [List.length_cons, List.length_append] at enough
    obtain ⟨fuel, rfl⟩ := Nat.exists_eq_add_of_le' (show 1 ≤ fuel by omega)
    rw [decodeParts, first]
    simp only [Nat.add_sub_cancel, List.drop_left, List.map_cons]
    rw [inductionHypothesis fuel (by omega)]

/-- The characters that are read off the encoding of a text are its own. -/
@[simp] theorem chars_eq (text : String) : chars text = text.toList := by
  rw [chars, utf8_eq, decodeParts_encoded _ _ (Nat.le_refl _), List.map_map]
  simp [Function.comp_def]

/-- Every text is read back from its UTF-8. -/
theorem ofUtf8Lossy_utf8 (text : String) : ofUtf8Lossy (utf8 text) = text := by
  have characters := chars_eq text
  unfold chars at characters
  rw [ofUtf8Lossy, characters, String.ofList_toList]

end Hotload.Text

namespace Hotload.Zip

/-- Below 128, a character is its own byte. -/
theorem codePageChars_encoded (char : Char) (plain : char.toNat < 128) :
    (String.utf8EncodeChar char).map codePageChar = [char] := by
  have small : char.val.toNat ≤ 127 := Nat.le_of_lt_succ plain
  have byte : (UInt8.ofNat char.val.toNat).toNat = char.val.toNat := by
    rw [UInt8.toNat_ofNat']; omega
  have below : UInt8.ofNat char.val.toNat < 128 := by
    rw [UInt8.lt_iff_toNat_lt, byte]; exact plain
  unfold String.utf8EncodeChar
  simp only [if_pos small, List.map_cons, List.map_nil, codePageChar, if_pos below, byte]
  exact congrArg (· :: []) (Char.ofNat_toNat char)

/-- A text of characters below 128 is read back in code page 437 as well. -/
theorem ofCodePage_utf8 (text : String) (plain : ∀ char ∈ text.toList, char.toNat < 128) :
    ofCodePage (Text.utf8 text) = text := by
  have spelled : (text.toList.flatMap String.utf8EncodeChar).map codePageChar = text.toList := by
    rw [List.map_flatMap]
    generalize text.toList = chars at plain ⊢
    induction chars with
    | nil => rfl
    | cons char rest inductionHypothesis =>
      rw [List.flatMap_cons, codePageChars_encoded char (plain char List.mem_cons_self),
        inductionHypothesis fun other inside => plain other (List.mem_cons_of_mem _ inside)]
      rfl
  rw [ofCodePage, Text.utf8_eq, spelled, String.ofList_toList]

end Hotload.Zip
