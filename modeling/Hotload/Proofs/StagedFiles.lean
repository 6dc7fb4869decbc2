import Hotload.Proofs.CacheDirectory
import Hotload.Proofs.Outputs

/-!
# Staged files side by side

Files that are staged with tokens of their own stand side by side in one directory, and nothing that
is done to one of them shows in another. `Holding` says which staged files a tree has, what is in them,
and that all else is as it was before the first of them was staged. Then every step on one of them
succeeds: it is created, written, copied and deleted as if it were alone.
-/

namespace Hotload

namespace Path

/-- The last component of a path into a directory by a single name is that name. -/
theorem fileName?_join (base : String) {child name : String} (single : Single child name) :
    fileName? (join base child) = some name := by
  have last : ∀ front path, parts path = front ++ [name] → (components path).getLast? = some name := by
    intro front path split
    have kept : ∀ names : List String, (names ++ [name]).filter (· ≠ ".") =
        names.filter (· ≠ ".") ++ [name] := by
      intro names
      simp [List.filter_append, single.notHere]
    unfold components
    split
    · next rest begins =>
      cases front with
      | nil =>
        rw [split] at begins
        exact absurd (List.cons.inj begins).1 single.notHere
      | cons first others =>
        rw [split, List.cons_append] at begins
        rw [← (List.cons.inj begins).2, kept]
        split
        · exact List.getLast?_concat
        · rw [← List.cons_append]
          exact List.getLast?_concat
    · rw [split, kept]
      exact List.getLast?_concat
  have named : ∀ path, (components path).getLast? = some name → fileName? path = some name := by
    intro path ends
    simp [fileName?, ends, single.notHere, single.notUp]
  by_cases present : base = ""
  · have alone : join base child = child := by simp [join, single.relative, present]
    rw [alone]
    exact named child (last [] child single.parts)
  · refine named _ (last (parts base) _ ?_)
    rw [parts_join present single.relative, single.parts]

/-- A unit is named after the single name by which its path leads into a directory. -/
theorem unitName_join (base : String) {child name : String} (single : Single child name) :
    unitName (join base child) = name := by
  rw [unitName, fileName?_join base single, Option.getD_some]

end Path

namespace Files

/-! ## Paths that lead to a name -/

/-- The path leads to a name in a directory, whatever stands there. -/
structure LeadsTo (files : Files) (path : String) (place : Location) (name : String) : Prop where
  plain : Path.endsInSeparator path = false
  led : ∀ follow, files.locate follow path = .ok (files.spotIn place name)

variable {files : Files} {path name : String} {place : Location} {content : Bytes} {modified : Int}

namespace LeadsTo

theorem spot_free (empty : files.node? (place ++ [name]) = none) :
    files.spotIn place name = .free place name := by
  unfold spotIn
  rw [empty]

theorem spot_file (stands : files.node? (place ++ [name]) = some (.file content modified)) :
    files.spotIn place name = .taken (place ++ [name]) (.file content modified) := by
  unfold spotIn
  rw [stands]

/-- A file that stands there is shown. -/
theorem shown (leads : LeadsTo files path place name)
    (stands : files.node? (place ++ [name]) = some (.file content modified)) :
    files.shown? path = some (place ++ [name], .file content modified) := by
  simp [shown?, status, leads.led, spot_file stands, leads.plain, Except.toOption]

/-- Where nothing is, there is nothing to remove. -/
theorem removeIfExists_free (leads : LeadsTo files path place name)
    (empty : files.node? (place ++ [name]) = none) :
    files.removeIfExists path = (files, .ok false) := by
  simp only [removeIfExists, unlink, leads.led, spot_free empty]

/-- A file that stands there is removed. -/
theorem removeIfExists_file (leads : LeadsTo files path place name)
    (stands : files.node? (place ++ [name]) = some (.file content modified)) :
    files.removeIfExists path = (files.erase (place ++ [name]), .ok true) := by
  simp [removeIfExists, unlink, leads.led, spot_file stands, leads.plain]

/-- Where nothing is, a file can be created. -/
theorem createNew_free (leads : LeadsTo files path place name)
    (empty : files.node? (place ++ [name]) = none) :
    files.createNew path = .ok (files.put (place ++ [name]) (.file [] files.clock)) := by
  simp [createNew, leads.led, spot_free empty, leads.plain]

/-- Where nothing is or a file, a content can be written. -/
theorem write_bare (leads : LeadsTo files path place name)
    (bare : files.bone? (place ++ [name]) = none) (content : Bytes) :
    files.write path content = .ok (files.put (place ++ [name]) (.file content files.clock)) := by
  rcases node?_of_bare bare with empty | ⟨old, modified, stands⟩
  · simp [write, leads.led, spot_free empty, leads.plain]
  · simp [write, leads.led, spot_file stands, leads.plain]

end LeadsTo

/-! ## Files side by side -/

/-- A name in the directory to which a path leads, under which nothing stands yet. -/
structure Available (before : Files) (base : String) (place : Location) (name : String) : Prop where
  reached : before.locate true base = .ok (.taken place .directory)
  single : Path.Single name name
  usable : Usable base name name
  empty : before.node? (place ++ [name]) = none

/-- The tree has files of given names and contents in the directory, and all else is as it was
before they were made. -/
structure Holding (before : Files) (base : String) (place : Location)
    (contents : List (String × Bytes)) (after : Files) : Prop where
  available : ∀ entry ∈ contents, Available before base place entry.1
  inside : ∀ entry ∈ contents, ∃ modified,
    after.node? (place ++ [entry.1]) = some (.file entry.2 modified)
  outside : ∀ location, (∀ entry ∈ contents, location ≠ place ++ [entry.1]) →
    after.node? location = before.node? location

variable {before after : Files} {base other : String} {contents rest : List (String × Bytes)}

/-- Before a file is made, there is none. -/
theorem holding_nil (before : Files) (base : String) (place : Location) :
    Holding before base place [] before where
  available := fun _ impossible => by cases impossible
  inside := fun _ impossible => by cases impossible
  outside := fun _ _ => rfl

namespace Holding

/-- The order does not matter. -/
theorem perm (holding : Holding before base place contents after) (same : contents.Perm rest) :
    Holding before base place rest after where
  available entry member := holding.available entry (same.mem_iff.mpr member)
  inside entry member := holding.inside entry (same.mem_iff.mpr member)
  outside location apart := holding.outside location fun entry member =>
    apart entry (same.mem_iff.mp member)

/-- Directories and links are as before. -/
theorem skeleton (holding : Holding before base place contents after) : SameSkeleton before after := by
  intro location
  by_cases member : ∃ entry ∈ contents, location = place ++ [entry.1]
  · obtain ⟨entry, member, rfl⟩ := member
    obtain ⟨modified, stands⟩ := holding.inside entry member
    simp [bone?, stands, (holding.available entry member).empty, boneOf?]
  · simp only [not_exists, not_and] at member
    simp only [bone?, holding.outside location member]

/-- Under a name that is available, nothing or a file stands. -/
theorem bare (holding : Holding before base place contents after)
    (available : Available before base place name) : after.bone? (place ++ [name]) = none := by
  rw [holding.skeleton, bone?, available.empty]
  rfl

/-- Under an available name that is not used yet, nothing stands. -/
theorem free (holding : Holding before base place contents after)
    (available : Available before base place name) (unused : name ∉ contents.map (·.1)) :
    after.node? (place ++ [name]) = none := by
  rw [holding.outside, available.empty]
  rintro entry member same
  have named : name = entry.1 := by simpa using same
  exact unused (named ▸ List.mem_map_of_mem member)

/-- The path by an available name leads to it. -/
theorem leadsTo (holding : Holding before base place contents after)
    (available : Available before base place name) :
    LeadsTo after (Path.join base name) place name := by
  have directory : after.locate true base = .ok (.taken place .directory) := by
    have leads : before.place? true base = some place := by simp [place?, available.reached,
      spotLocation?]
    rw [holding.skeleton.locate leads, available.reached]
    refine holding.outside place fun entry _ same => ?_
    have lengths := congrArg List.length same
    simp at lengths
  refine ⟨available.single.join_named base, fun follow => ?_⟩
  refine locate_usable directory available.single available.usable follow fun _ target => ?_
  exact noLink_of_bone (.inl (holding.bare available)) target

/-- A file is written under an available name, in place of what the name stood for. -/
theorem put (holding : Holding before base place contents after)
    (available : Available before base place name) (content : Bytes) (modified : Int)
    (others : name ∉ rest.map (·.1))
    (same : ∀ entry, entry.1 ≠ name → (entry ∈ contents ↔ entry ∈ rest)) :
    Holding before base place ((name, content) :: rest)
      (after.put (place ++ [name]) (.file content modified)) where
  available entry member := by
    rcases List.mem_cons.mp member with rfl | member
    · exact available
    · have away : entry.1 ≠ name := fun named => others (named ▸ List.mem_map_of_mem member)
      exact holding.available entry ((same entry away).mpr member)
  inside entry member := by
    rw [node?_put _ (by simp)]
    rcases List.mem_cons.mp member with rfl | member
    · exact ⟨modified, if_pos rfl⟩
    · have away : entry.1 ≠ name := fun named => others (named ▸ List.mem_map_of_mem member)
      rw [if_neg (by simpa using away)]
      exact holding.inside entry ((same entry away).mpr member)
  outside location apart := by
    rw [node?_put _ (by simp), if_neg (apart _ List.mem_cons_self)]
    refine holding.outside location fun entry member here => ?_
    by_cases named : entry.1 = name
    · exact apart _ List.mem_cons_self (named ▸ here)
    · exact apart entry (List.mem_cons_of_mem _ ((same entry named).mp member)) here

/-- A file is taken away. -/
theorem erase (holding : Holding before base place ((name, content) :: rest) after)
    (others : name ∉ rest.map (·.1)) :
    Holding before base place rest (after.erase (place ++ [name])) where
  available entry member := holding.available entry (List.mem_cons_of_mem _ member)
  inside entry member := by
    have away : entry.1 ≠ name := fun named => others (named ▸ List.mem_map_of_mem member)
    rw [node?_erase _ (by simp), if_neg (by simpa using away)]
    exact holding.inside entry (List.mem_cons_of_mem _ member)
  outside location apart := by
    rw [node?_erase _ (by simp)]
    split
    · next here =>
      rw [here]
      exact (holding.available _ List.mem_cons_self).empty.symm
    · next away =>
      refine holding.outside location fun entry member here => ?_
      rcases List.mem_cons.mp member with rfl | member
      · exact away here
      · exact apart entry member here

/-! ### What can be done to one file -/

/-- A file is shown by its path. -/
theorem shown (holding : Holding before base place contents after)
    (member : (name, content) ∈ contents) :
    ∃ modified, after.shown? (Path.join base name) =
      some (place ++ [name], .file content modified) := by
  obtain ⟨modified, stands⟩ := holding.inside _ member
  exact ⟨modified, (holding.leadsTo (holding.available _ member)).shown stands⟩

/-- There is nothing to clear away under a name that is not used yet. -/
theorem cleared (holding : Holding before base place contents after)
    (available : Available before base place name) (unused : name ∉ contents.map (·.1)) :
    after.removeIfExists (Path.join base name) = (after, .ok false) :=
  (holding.leadsTo available).removeIfExists_free (holding.free available unused)

/-- An empty file is created under a name that is not used yet. -/
theorem created (holding : Holding before base place contents after)
    (available : Available before base place name) (unused : name ∉ contents.map (·.1)) :
    ∃ next, after.createNew (Path.join base name) = .ok next ∧
      Holding before base place ((name, []) :: contents) next :=
  ⟨_, (holding.leadsTo available).createNew_free (holding.free available unused),
    holding.put available [] _ unused fun _ _ => Iff.rfl⟩

/-- A content is written to a file. -/
theorem written (holding : Holding before base place contents after)
    (available : Available before base place name) (content : Bytes)
    (others : name ∉ rest.map (·.1))
    (same : ∀ entry, entry.1 ≠ name → (entry ∈ contents ↔ entry ∈ rest)) :
    ∃ next, after.write (Path.join base name) content = .ok next ∧
      Holding before base place ((name, content) :: rest) next :=
  ⟨_, (holding.leadsTo available).write_bare (holding.bare available) content,
    holding.put available content _ others same⟩

/-- A file is deleted. -/
theorem removed (holding : Holding before base place ((name, content) :: rest) after)
    (others : name ∉ rest.map (·.1)) :
    ∃ next, after.removeIfExists (Path.join base name) = (next, .ok true) ∧
      Holding before base place rest next := by
  obtain ⟨modified, stands⟩ := holding.inside _ List.mem_cons_self
  have leads := holding.leadsTo (holding.available _ List.mem_cons_self)
  exact ⟨_, leads.removeIfExists_file stands, holding.erase others⟩

/-- One file is copied over another one. -/
theorem copied (holding : Holding before base place ((name, content) :: rest) after)
    {text : Bytes} (source : (other, text) ∈ rest) (others : name ∉ rest.map (·.1)) :
    ∃ next, after.copy (Path.join base other) (Path.join base name) = (next, .ok text.length) ∧
      Holding before base place ((name, text) :: rest) next := by
  have available := holding.available _ List.mem_cons_self
  have same : ∀ (old : Bytes) entry, entry.1 ≠ name → (entry ∈ (name, old) :: rest ↔ entry ∈ rest) := by
    rintro old entry away
    rw [List.mem_cons, or_iff_right]
    rintro rfl
    exact away rfl
  obtain ⟨modified, shown⟩ := holding.shown (List.mem_cons_of_mem _ source)
  obtain ⟨opened, emptied, opening⟩ := holding.written available [] others (same content)
  obtain ⟨still, reads⟩ := opening.shown (List.mem_cons_of_mem _ source)
  obtain ⟨next, filled, copied⟩ := opening.written available text others (same [])
  refine ⟨next, ?_, copied⟩
  simp only [Files.copy, status_of_shown shown, emptied, read_of_shown reads, filled]

end Holding

end Files

end Hotload
