import Hotload.Proofs.StagedFiles
import Mathlib.Algebra.Group.Nat.Defs

/-!
# Names that can be staged

The name of a staged file has a fixed part: some digits of a digest, an underscore and a token. With
an extension that is short and holds no separator it is the name of a file that any directory can
have, as long as the path of the directory is not too long itself.
-/

namespace Hotload

open Files

/-! ## Sizes of texts -/

/-- A text of plain characters has one byte for each. -/
theorem utf8ByteSize_plain {chars : List Char} (plain : ∀ character ∈ chars, character.val ≤ 127) :
    (String.ofList chars).utf8ByteSize = chars.length := by
  induction chars with
  | nil => rfl
  | cons first rest inductionHypothesis =>
    have size := Char.utf8Size_eq_one_iff.mpr (plain first List.mem_cons_self)
    have split : String.ofList (first :: rest) = String.singleton first ++ String.ofList rest := by
      apply String.toList_inj.mp
      simp
    rw [split, String.utf8ByteSize_append, String.utf8ByteSize_singleton, size,
      inductionHypothesis fun character member => plain character (List.mem_cons_of_mem _ member),
      List.length_cons, Nat.add_comm]

namespace Bytes

/-- A hexadecimal digit is a plain character. -/
theorem hexDigit_plain {value : Nat} (small : value < 16) : (hexDigit value).val ≤ 127 := by
  have all : ∀ digit : Fin 16, (hexDigit digit).val ≤ 127 := by decide
  exact all ⟨value, small⟩

/-- Each byte is spelled by two digits. -/
theorem hex_size (bytes : Bytes) : (hex bytes).utf8ByteSize = 2 * bytes.length := by
  unfold hex
  rw [utf8ByteSize_plain]
  · induction bytes with
    | nil => rfl
    | cons first rest inductionHypothesis =>
      rw [List.flatMap_cons, List.length_append, inductionHypothesis, List.length_cons]
      simp only [List.length_cons, List.length_nil]
      omega
  · intro character member
    simp only [List.mem_flatMap, List.mem_cons, List.not_mem_nil, or_false] at member
    obtain ⟨byte, _, rfl | rfl⟩ := member
    · have bound := byte.toNat_lt
      exact hexDigit_plain (by omega)
    · exact hexDigit_plain (Nat.mod_lt _ (by decide))

/-- No digit is a null character. -/
theorem hex_noNull (bytes : Bytes) : '\x00' ∉ (hex bytes).toList := by
  have all : ∀ digit : Fin 16, hexDigit digit ≠ '\x00' := by decide
  intro member
  simp only [hex, String.toList_ofList, List.mem_flatMap, List.mem_cons, List.not_mem_nil,
    or_false] at member
  obtain ⟨byte, _, high | low⟩ := member
  · have bound := byte.toNat_lt
    exact all ⟨byte.toNat / 16, by omega⟩ high.symm
  · exact all ⟨byte.toNat % 16, Nat.mod_lt _ (by decide)⟩ low.symm

end Bytes

namespace Path

/-- A joined path has the bytes of its parts and at most one more. -/
theorem join_size (base child : String) :
    (join base child).utf8ByteSize ≤ base.utf8ByteSize + 1 + child.utf8ByteSize := by
  have separator : "/".utf8ByteSize = 1 := rfl
  unfold join
  split
  · omega
  · split
    · rw [String.utf8ByteSize_append]
      omega
    · refine Nat.le_of_eq ?_
      rw [String.utf8ByteSize_append, String.utf8ByteSize_append, separator]

/-- A joined path has no other characters than its parts and a separator. -/
theorem mem_join {base child : String} {character : Char}
    (member : character ∈ (join base child).toList) :
    character ∈ base.toList ∨ character = '/' ∨ character ∈ child.toList := by
  unfold join at member
  split at member
  · exact .inr (.inr member)
  · split at member
    · rw [String.toList_append] at member
      exact (List.mem_append.mp member).imp_right .inr
    · simpa [or_assoc] using member

end Path

/-! ## Names of staged files -/

namespace Session

/-- A number with few digits is padded to the width. -/
theorem paddedDigits_length {value : Nat} (small : value < 10 ^ 12) :
    (paddedDigits 12 value).length = 12 := by
  have few : (Nat.toDigits 10 value).length ≤ 12 :=
    (Nat.length_toDigits_le_iff (by decide) (by decide)).mpr small
  unfold paddedDigits
  rw [List.length_append, List.length_replicate]
  omega

/-- A digit is a plain character and no null character. -/
theorem digit_plain {character : Char} (digit : character.isDigit = true) :
    character.val ≤ 127 ∧ character ≠ '\x00' := by
  simp only [Char.isDigit, ge_iff_le, Bool.and_eq_true, decide_eq_true_eq] at digit
  refine ⟨Nat.le_trans digit.2 (by decide), ?_⟩
  rintro rfl
  exact absurd digit.1 (by decide)

/-- A stem has at most 53 bytes. -/
theorem stagedStem_size (key : String) {number : Nat} (small : number < 10 ^ 12) :
    (stagedStem key number).utf8ByteSize ≤ 53 := by
  have underscore : "_".utf8ByteSize = 1 := rfl
  have groups : "00000000-0000-4000-8000-".utf8ByteSize = 24 := rfl
  have digest : (Staging.shortDigest key).utf8ByteSize ≤ 16 := by
    unfold Staging.shortDigest
    rw [Bytes.hex_size, List.length_take]
    omega
  have digits : (String.ofList (paddedDigits 12 number)).utf8ByteSize = 12 := by
    rw [utf8ByteSize_plain fun character member =>
      (digit_plain (paddedDigits_isDigit member)).1, paddedDigits_length small]
  unfold stagedStem tokenText
  generalize Staging.shortDigest key = text at digest
  simp only [String.utf8ByteSize_append, underscore, groups, digits]
  omega

/-- A stem holds no null character. -/
theorem stagedStem_noNull (key : String) (number : Nat) :
    '\x00' ∉ (stagedStem key number).toList := by
  rw [stagedStem_toList]
  intro member
  rcases List.mem_append.mp member with inDigest | others
  · exact Bytes.hex_noNull _ inDigest
  · rcases List.mem_cons.mp others with impossible | inToken
    · cases impossible
    · rcases List.mem_append.mp inToken with inGroups | inDigits
      · simp at inGroups
      · exact (digit_plain (paddedDigits_isDigit inDigits)).2 rfl

/-- An extension that is short and holds neither separators nor null characters. -/
structure ShortExtension (extension : String) : Prop where
  whole : '/' ∉ extension.toList
  noNull : '\x00' ∉ extension.toList
  size : extension.utf8ByteSize ≤ 200

/-- Files can be staged with the tokens up to a limit: their names are names of files, and neither
they nor their paths are too long. -/
def Stageable (resolver : Resolver) (limit : Nat) : Prop :=
  ∀ key number extension, number < limit →
    extension = some resolver.staging.archiveExtension ∨
      extension = resolver.staging.artifactExtension →
    Path.Single (Staging.withExtension (stagedStem key number) extension)
        (Staging.withExtension (stagedStem key number) extension) ∧
      Usable resolver.staging.layout.staging
        (Staging.withExtension (stagedStem key number) extension)
        (Staging.withExtension (stagedStem key number) extension)

/-- The name of a staged file with a short extension. -/
theorem staged_single (key : String) (number : Nat) {extension : Option String}
    (short : ∀ text ∈ extension, ShortExtension text) :
    Path.Single (Staging.withExtension (stagedStem key number) extension)
      (Staging.withExtension (stagedStem key number) extension) := by
  have underscore : '_' ∈ (Staging.withExtension (stagedStem key number) extension).toList := by
    rw [Staging.withExtension_eq, String.toList_append, stagedStem_toList]
    simp
  refine Path.single_of_name ?_ ?_ ?_ ?_
  · intro empty
    rw [empty] at underscore
    cases underscore
  · cases extension with
    | none => exact stagedStem_whole key number
    | some text =>
      have whole := (short text rfl).whole
      simp [Staging.withExtension, stagedStem_whole key number, whole]
  all_goals
    intro same
    rw [same] at underscore
    simp at underscore

/-- Short extensions and a directory whose path is not too long are enough. -/
theorem stageable_of_short {resolver : Resolver} {limit : Nat} (few : limit ≤ 10 ^ 12)
    (archive : ShortExtension resolver.staging.archiveExtension)
    (artifact : ∀ extension ∈ resolver.staging.artifactExtension, ShortExtension extension)
    (noNull : '\x00' ∉ resolver.staging.layout.staging.toList)
    (size : resolver.staging.layout.staging.utf8ByteSize ≤ 3840) : Stageable resolver limit := by
  intro key number extension below known
  have short : ∀ text ∈ extension, ShortExtension text := by
    rcases known with rfl | rfl
    · rintro text same
      exact Option.some.inj same ▸ archive
    · exact artifact
  have stem := stagedStem_size key (Nat.lt_of_lt_of_le below few)
  have single := staged_single key number short
  have plain : '\x00' ∉ (Staging.withExtension (stagedStem key number) extension).toList := by
    cases extension with
    | none => exact stagedStem_noNull key number
    | some text =>
      have away := (short text rfl).noNull
      simp [Staging.withExtension, stagedStem_noNull key number, away]
  have fits : (Staging.withExtension (stagedStem key number) extension).utf8ByteSize ≤ 254 := by
    have dot : ".".utf8ByteSize = 1 := rfl
    cases extension with
    | none => exact Nat.le_trans stem (by decide)
    | some text =>
      have tail := (short text rfl).size
      simp only [Staging.withExtension, String.utf8ByteSize_append, dot]
      omega
  generalize Staging.withExtension (stagedStem key number) extension = name at single plain fits
  refine ⟨single, ⟨?_, single.join_ne_empty _, ?_⟩, ?_⟩
  · intro member
    rcases Path.mem_join member with inBase | separator | inName
    · exact noNull inBase
    · cases separator
    · exact plain inName
  · have whole := Path.join_size resolver.staging.layout.staging name
    omega
  · simp only [isOverlong, decide_eq_false_iff_not]
    omega

end Session

end Hotload
