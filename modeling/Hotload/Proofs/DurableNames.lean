import Hotload.Proofs.ArtifactOrigins
import Hotload.Proofs.CacheLayouts

/-!
# Names of lasting artifacts

The name of a lasting artifact is the digest of a message, and the message is the path of the
container, an underscore and a time in decimal digits. Nothing in the path is escaped, and the path may
itself end in underscores and digits. The message tells path and time all the same: the digits at its
end have no underscore among them, so the last underscore is the one that was put in. What the digest
tells, the path of the artifact tells, whatever the extension is, and as a text as well as by its
components.
-/

namespace Hotload

namespace Bytes

/-- A digit of a byte is read as its value. -/
theorem hexValue?_hexDigit {value : Nat} (small : value < 16) :
    hexValue? (hexDigit value) = some value := by
  have all : ∀ value < 16, hexValue? (hexDigit value) = some value := by decide
  exact all value small

/-- A hexadecimal spelling is read back. -/
theorem ofHex?_hex (bytes : Bytes) : ofHex? (hex bytes) = some bytes := by
  unfold ofHex? hex
  rw [String.toList_ofList]
  induction bytes with
  | nil => rfl
  | cons byte rest inductionHypothesis =>
    have size := byte.toNat_lt
    have whole : 16 * (byte.toNat / 16) + byte.toNat % 16 = byte.toNat := by omega
    simp only [List.flatMap_cons, List.cons_append, List.nil_append, ofHexDigits?,
      hexValue?_hexDigit (show byte.toNat / 16 < 16 by omega),
      hexValue?_hexDigit (show byte.toNat % 16 < 16 by omega), inductionHypothesis,
      Option.bind_eq_bind, Option.bind_some, whole, UInt8.ofNat_toNat]

/-- Different byte strings are spelled differently. -/
theorem hex_injective : Function.Injective hex := by
  intro bytes other same
  have read := congrArg ofHex? same
  rw [ofHex?_hex, ofHex?_hex] at read
  exact Option.some.inj read

end Bytes

/-- Different texts have different bytes. -/
theorem Text.utf8_injective : Function.Injective utf8 := by
  intro text other same
  have read := congrArg ofUtf8Lossy same
  rwa [ofUtf8Lossy_utf8, ofUtf8Lossy_utf8] at read

namespace Staging

/-- From 1970 on, a message tells the path of the container and its time. -/
theorem durableMessage_eq_iff {container other : String} {time later : Int} (since : 0 ≤ time)
    (sinceOther : 0 ≤ later) :
    durableMessage container time = durableMessage other later ↔
      container = other ∧ time = later := by
  constructor
  · intro same
    obtain ⟨path, times⟩ := durableMessage_inj same
    exact ⟨path, by omega⟩
  · rintro ⟨rfl, rfl⟩
    rfl

/-- If a digest tells two messages apart, paths of artifacts do, by their components. -/
theorem digest_of_components {staging : Staging} {text other : String}
    (same : Path.components (Path.join staging.layout.root
        (withExtension (digest text) staging.artifactExtension)) =
      Path.components (Path.join staging.layout.root
        (withExtension (digest other) staging.artifactExtension))) : digest text = digest other := by
  obtain ⟨relative, first, rest, parts, notHere, -⟩ :=
    durable_parts text staging.artifactExtension
  obtain ⟨relativeOther, firstOther, restOther, partsOther, notHereOther, -⟩ :=
    durable_parts other staging.artifactExtension
  rw [Path.components_join relative parts notHere,
    Path.components_join relativeOther partsOther notHereOther] at same
  obtain ⟨rfl, -⟩ := List.cons_eq_cons.mp (List.append_cancel_left same)
  exact String.toList_injective ((digest_of_parts parts).symm.trans (digest_of_parts partsOther))

/-- Two containers from 1970 on have one path for their artifacts, by its text and by its
components, just if they have one path and one time, provided that no two messages have one digest.
That is what the message tells in any case. The digest can be read off the name of an artifact,
whatever the extension, and path and time can be read off the message, since the time comes after
its last underscore. -/
theorem durablePath_eq_iff (staging : Staging) {files filesLater : Files} {container other : String}
    {time later : Int} (dated : files.modified container = .ok time)
    (datedOther : filesLater.modified other = .ok later) (since : 0 ≤ time) (sinceOther : 0 ≤ later)
    (apart : Digest.Sha256.hash (Text.utf8 (durableMessage container time)) =
        Digest.Sha256.hash (Text.utf8 (durableMessage other later)) →
      Text.utf8 (durableMessage container time) = Text.utf8 (durableMessage other later)) :
    (durableMessage container time = durableMessage other later ↔
      container = other ∧ time = later) ∧
    ∃ path pathOther, staging.durablePath container files = .ok path ∧
      staging.durablePath other filesLater = .ok pathOther ∧
        (path = pathOther ↔ container = other ∧ time = later) ∧
        (Path.components path = Path.components pathOther ↔ container = other ∧ time = later) := by
  have message : durableMessage container time = durableMessage other later ↔
      container = other ∧ time = later := durableMessage_eq_iff since sinceOther
  have told : digest (durableMessage container time) = digest (durableMessage other later) →
      container = other ∧ time = later := by
    intro same
    exact message.mp (Text.utf8_injective (apart (Bytes.hex_injective same)))
  have named : staging.durablePath container files = .ok (Path.join staging.layout.root
      (withExtension (digest (durableMessage container time)) staging.artifactExtension)) := by
    rw [durablePath, dated]
  have namedOther : staging.durablePath other filesLater = .ok (Path.join staging.layout.root
      (withExtension (digest (durableMessage other later)) staging.artifactExtension)) := by
    rw [durablePath, datedOther]
  refine ⟨message, _, _, named, namedOther, ⟨?_, ?_⟩, ⟨?_, ?_⟩⟩
  · exact fun same => told (digest_of_components (congrArg Path.components same))
  · rintro ⟨rfl, rfl⟩
    rfl
  · exact fun same => told (digest_of_components same)
  · rintro ⟨rfl, rfl⟩
    rfl

/-- A tree with one file in the directory where paths start. -/
def oneContainer (name : String) (time : Int) : Files where
  entries := [(["tmp"], .directory), (["tmp", "work"], .directory),
    (["tmp", "work", name], .file [] time)]
  clock := time

/-- A container called `a_1` at time 0 and one called `a` at time 10 have different messages and
different paths, so an underscore and a digit that a path ends in are not taken for the time. -/
theorem durablePath_underscores :
    (durableMessage "a_1" 0 = durableMessage "a" 10 ↔ "a_1" = "a" ∧ (0 : Int) = 10) ∧
    ∃ path pathOther,
      (ofConfig {}).durablePath "a_1" (oneContainer "a_1" 0) = .ok path ∧
      (ofConfig {}).durablePath "a" (oneContainer "a" 10) = .ok pathOther ∧
        (path = pathOther ↔ "a_1" = "a" ∧ (0 : Int) = 10) ∧
        (Path.components path = Path.components pathOther ↔ "a_1" = "a" ∧ (0 : Int) = 10) := by
  have digests : Digest.Sha256.hash (Text.utf8 (durableMessage "a_1" 0)) ≠
      Digest.Sha256.hash (Text.utf8 (durableMessage "a" 10)) := by decide +kernel
  exact durablePath_eq_iff (ofConfig {}) (show (oneContainer "a_1" 0).modified "a_1" = .ok 0 from rfl)
    (show (oneContainer "a" 10).modified "a" = .ok 10 from rfl) (by decide) (by decide)
    fun same => absurd same digests

end Staging

end Hotload
