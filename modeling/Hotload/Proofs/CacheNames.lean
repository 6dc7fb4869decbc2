import Hotload.Proofs.JoinedPaths
import Hotload.Session.Basic

/-!
# Names in the cache directory

A staged file is named by a digest and a token, and a lasting artifact by a digest; an extension
follows. The extension may hold separators, and then the name is a path of several parts, but its
first part is a proper name that begins with the digest. Files staged with different tokens have
different first parts.
-/

namespace Hotload

namespace Bytes

/-- A hexadecimal digit is no separator, no dot and no underscore. -/
theorem hexDigit_proper {value : Nat} (small : value < 16) :
    hexDigit value ≠ '/' ∧ hexDigit value ≠ '.' ∧ hexDigit value ≠ '_' := by
  have all : ∀ digit : Fin 16, hexDigit digit ≠ '/' ∧ hexDigit digit ≠ '.' ∧
      hexDigit digit ≠ '_' := by decide
  exact all ⟨value, small⟩

/-- No character of a hexadecimal spelling is a separator, a dot or an underscore. -/
theorem hex_proper {bytes : Bytes} {character : Char} (inside : character ∈ (hex bytes).toList) :
    character ≠ '/' ∧ character ≠ '.' ∧ character ≠ '_' := by
  simp only [hex, String.toList_ofList, List.mem_flatMap, List.mem_cons, List.not_mem_nil,
    or_false] at inside
  obtain ⟨byte, _, high | low⟩ := inside
  · have bound := byte.toNat_lt
    rw [high]
    exact hexDigit_proper (by omega)
  · rw [low]
    exact hexDigit_proper (Nat.mod_lt _ (by decide))

/-- The spelling of some bytes is not empty. -/
theorem hex_present {bytes : Bytes} (present : bytes ≠ []) :
    ∃ character, character ∈ (hex bytes).toList := by
  obtain ⟨first, rest, rfl⟩ := List.exists_cons_of_ne_nil present
  exact ⟨hexDigit (first.toNat / 16), by simp [hex]⟩

end Bytes

/-- A digest is not empty. -/
theorem Digest.Sha256.hash_present (message : Bytes) : hash message ≠ [] := by
  intro empty
  have length := congrArg List.length empty
  simp [hash, State.toBytes] at length

namespace Staging

/-- What follows the stem of a name. -/
def extensionTail : Option String → String
  | none => ""
  | some extension => "." ++ extension

theorem withExtension_eq (stem : String) (extension : Option String) :
    withExtension stem extension = stem ++ extensionTail extension := by
  cases extension with
  | none => simp [withExtension, extensionTail]
  | some extension => simp [withExtension, extensionTail, String.append_assoc]

/-- How a tail begins. -/
theorem prefix_extensionTail {extension : Option String} {head : List Char}
    (begins : head <+: (extensionTail extension).toList) :
    head = [] ∨ ∃ rest, head = '.' :: rest := by
  cases head with
  | nil => exact .inl rfl
  | cons first rest =>
    obtain ⟨others, split⟩ := begins
    cases extension with
    | none => simp [extensionTail] at split
    | some extension =>
      refine .inr ⟨rest, ?_⟩
      have same : first = '.' := by
        simp [extensionTail] at split
        exact split.1
      rw [same]

/-- The name of a lasting artifact is relative and has a proper first part. -/
theorem durable_parts (text : String) (extension : Option String) :
    Path.isAbsolute (withExtension (digest text) extension) = false ∧
      ∃ first rest, Path.parts (withExtension (digest text) extension) = first :: rest ∧
        first ≠ "." ∧ first ≠ ".." := by
  obtain ⟨character, inside⟩ := Bytes.hex_present
    (Digest.Sha256.hash_present (Text.utf8 text))
  have whole : '/' ∉ (digest text).toList := fun member => (Bytes.hex_proper member).1 rfl
  rw [withExtension_eq]
  obtain ⟨head, rest, parts, _, notHere, notUp⟩ :=
    Path.exists_parts inside (Bytes.hex_proper inside).2.1 whole (extensionTail extension)
  exact ⟨Path.relative_of_stem inside whole _, _, rest, parts, notHere, notUp⟩

end Staging

namespace Session

/-- The digits of different numbers differ. -/
theorem paddedDigits_value (width value : Nat) :
    Nat.ofDigitChars 10 (paddedDigits width value) 0 = value := by
  unfold paddedDigits
  rw [Nat.ofDigitChars_append, Nat.ofDigitChars_replicate_zero, Nat.mul_zero,
    Nat.ofDigitChars_ten_toDigits]

/-- Padded digits are digits. -/
theorem paddedDigits_isDigit {width value : Nat} {character : Char}
    (inside : character ∈ paddedDigits width value) : character.isDigit = true := by
  unfold paddedDigits at inside
  rcases List.mem_append.mp inside with padding | digit
  · rw [List.eq_of_mem_replicate padding]
    rfl
  · exact Nat.isDigit_of_mem_toDigits (by decide) (by decide) digit

/-- What a staged file is called before its extension. -/
def stagedStem (key : String) (number : Nat) : String :=
  Staging.shortDigest key ++ "_" ++ tokenText number

/-- A staged file goes into the directory for them. -/
theorem pathFor_eq (staging : Staging) (key : String) (extension : Option String)
    (number : Nat) :
    staging.pathFor key extension (tokenText number) =
      Path.join staging.layout.staging (Staging.withExtension (stagedStem key number) extension) :=
  rfl

/-- The characters of a stem are those of the digest, an underscore and those of the token. -/
theorem stagedStem_toList (key : String) (number : Nat) :
    (stagedStem key number).toList = (Staging.shortDigest key).toList ++
      '_' :: ("00000000-0000-4000-8000-".toList ++ paddedDigits 12 number) := by
  have underscore : "_".toList = ['_'] := rfl
  unfold stagedStem tokenText
  generalize Staging.shortDigest key = digest
  simp only [String.toList_append, String.toList_ofList, underscore, List.append_assoc,
    List.singleton_append]

/-- A stem holds no separator. -/
theorem stagedStem_whole (key : String) (number : Nat) :
    '/' ∉ (stagedStem key number).toList := by
  rw [stagedStem_toList]
  intro member
  rcases List.mem_append.mp member with inDigest | others
  · exact (Bytes.hex_proper inDigest).1 rfl
  · rcases List.mem_cons.mp others with impossible | inToken
    · cases impossible
    · rcases List.mem_append.mp inToken with inGroups | inDigits
      · simp at inGroups
      · exact absurd (paddedDigits_isDigit inDigits) (by decide)

/-- The name of a staged file is relative and has a proper first part. -/
theorem staged_parts (key : String) (number : Nat) (extension : Option String) :
    Path.isAbsolute (Staging.withExtension (stagedStem key number) extension) = false ∧
      ∃ first rest,
        Path.parts (Staging.withExtension (stagedStem key number) extension) = first :: rest ∧
          first ≠ "." ∧ first ≠ ".." := by
  have inside : '_' ∈ (stagedStem key number).toList := by
    rw [stagedStem_toList]
    simp
  have whole := stagedStem_whole key number
  rw [Staging.withExtension_eq]
  obtain ⟨head, rest, parts, _, notHere, notUp⟩ :=
    Path.exists_parts inside (by decide) whole (Staging.extensionTail extension)
  exact ⟨Path.relative_of_stem inside whole _, _, rest, parts, notHere, notUp⟩

/-- Files staged with different tokens have different first parts. -/
theorem staged_number {key otherKey : String} {number other : Nat}
    {extension otherExtension : Option String} {first : String} {rest otherRest : List String}
    (parts : Path.parts (Staging.withExtension (stagedStem key number) extension) =
      first :: rest)
    (otherParts : Path.parts
      (Staging.withExtension (stagedStem otherKey other) otherExtension) = first :: otherRest) :
    number = other := by
  -- The digits of the token are what stands between the last group and the extension.
  have spelled : ∀ (key : String) (number : Nat) (extension : Option String)
      (rest : List String), Path.parts (Staging.withExtension (stagedStem key number) extension) =
        first :: rest →
      ((first.toList.dropWhile (· ≠ '_')).drop 25).takeWhile Char.isDigit =
        paddedDigits 12 number := by
    intro key number extension rest parts
    have inside : '_' ∈ (stagedStem key number).toList := by
      rw [stagedStem_toList]
      simp
    rw [Staging.withExtension_eq] at parts
    obtain ⟨head, others, split, begins, _⟩ := Path.exists_parts inside (by decide)
      (stagedStem_whole key number) (Staging.extensionTail extension)
    rw [parts] at split
    have first_eq : first = String.ofList ((stagedStem key number).toList ++ head) :=
      (List.cons.inj split).1
    have digest : ∀ character ∈ (Staging.shortDigest key).toList,
        decide (character ≠ '_') = true := by
      intro character member
      exact decide_eq_true (Bytes.hex_proper member).2.2
    have ended : head.takeWhile Char.isDigit = [] := by
      rcases Staging.prefix_extensionTail begins with rfl | ⟨rest, rfl⟩ <;> rfl
    rw [first_eq, String.toList_ofList, stagedStem_toList, List.append_assoc,
      List.dropWhile_append_of_pos digest]
    simp only [List.cons_append, List.append_assoc]
    rw [List.dropWhile_cons_of_neg (by simp), List.drop_succ_cons]
    have groups : List.drop 24 "00000000-0000-4000-8000-".toList = [] := by decide
    rw [List.drop_append_of_le_length (by decide), groups, List.nil_append,
      List.takeWhile_append_of_pos (fun character member => paddedDigits_isDigit member), ended,
      List.append_nil]
  have digits := (spelled key number extension rest parts).symm.trans
    (spelled otherKey other otherExtension otherRest otherParts)
  have values := congrArg (fun digits => Nat.ofDigitChars 10 digits 0) digits
  simpa only [paddedDigits_value] using values

end Session

end Hotload
