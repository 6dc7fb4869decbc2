import Hotload.Cache.Staging
import Hotload.Proofs.Places
import Hotload.Proofs.SpelledTexts

/-!
# Paths into a directory

A path that is joined from the path of a directory and something relative leads to that directory
first and goes on from there. So a path that is joined with a single name leads to that name in the
directory, whatever way leads to the directory, as long as the path and the name are not too long
and no link stands there.
-/

namespace Hotload

namespace Path

/-- A path is absolute if its first character is a separator. -/
theorem isAbsolute_eq (path : String) : isAbsolute path = decide (path.toList.head? = some '/') := by
  rw [isAbsolute, Text.chars_eq]

/-- A path ends in a separator if that is its last character. -/
theorem endsInSeparator_eq (path : String) :
    endsInSeparator path = decide (path.toList.getLast? = some '/') := by
  rw [endsInSeparator, Text.chars_eq]

/-- The parts of a path are the pieces of its text between separators that are not empty. -/
theorem parts_eq (path : String) :
    parts path = ((path.toList.splitOn '/').filter (· ≠ [])).map String.ofList := by
  rw [parts, Text.chars_eq]

/-- The parts of two paths with a separator in between are those of the one and those of the
other. -/
theorem parts_between (front back : String) :
    parts (front ++ "/" ++ back) = parts front ++ parts back := by
  have split : (front ++ "/" ++ back).toList = front.toList ++ '/' :: back.toList := by simp
  simp only [parts_eq, split, List.splitOn_append_cons_self, List.filter_append, List.map_append]

/-- The parts of a joined path are those of the directory and those of what is joined to it. -/
theorem parts_join {base child : String} (present : base ≠ "")
    (relative : isAbsolute child = false) :
    parts (join base child) = parts base ++ parts child := by
  unfold join
  rw [relative, if_neg (by simp)]
  split
  · next ends =>
    have ends : endsInSeparator base = true := ends.resolve_left present
    rw [endsInSeparator_eq] at ends
    obtain ⟨front, split⟩ := List.getLast?_eq_some_iff.mp (of_decide_eq_true ends)
    have base_eq : base = String.ofList front ++ "/" := by
      apply String.toList_inj.mp
      simp [split]
    rw [base_eq, parts_between]
    have bare := parts_between (String.ofList front) ""
    rw [String.append_empty] at bare
    rw [bare]
    simp [parts_eq]
  · exact parts_between base child

/-- A joined path is absolute if the directory is. -/
theorem isAbsolute_join {base child : String} (present : base ≠ "")
    (relative : isAbsolute child = false) :
    isAbsolute (join base child) = isAbsolute base := by
  have filled : base.toList ≠ [] := by simpa using present
  obtain ⟨first, rest, base_eq⟩ := List.exists_cons_of_ne_nil filled
  unfold join
  rw [relative, if_neg (by simp)]
  split <;> simp [isAbsolute_eq, base_eq]

/-- A joined path ends as what is joined to the directory. -/
theorem endsInSeparator_join (base : String) {child : String} (present : child ≠ "") :
    endsInSeparator (join base child) = endsInSeparator child := by
  have filled : child.toList ≠ [] := by simpa using present
  unfold join
  split
  · rfl
  · split
    · simp [endsInSeparator_eq, List.getLast?_append, List.getLast?_eq_some_getLast filled]
    · simp [endsInSeparator_eq, List.getLast?_append, List.getLast?_cons,
        List.getLast?_eq_some_getLast filled]

/-- A joined path is not empty. -/
theorem join_ne_empty (base : String) {child : String} (present : child ≠ "") :
    join base child ≠ "" := by
  unfold join
  split
  · exact present
  · split
    · simp [present]
    · simp

/-- A relative path by a single proper name. -/
structure Single (child name : String) : Prop where
  relative : isAbsolute child = false
  parts : parts child = [name]
  notHere : name ≠ "."
  notUp : name ≠ ".."

/-- A path by a single name is not empty. -/
theorem Single.filled {child name : String} (single : Single child name) : child ≠ "" := by
  rintro rfl
  have parts := single.parts
  simp [Path.parts_eq] at parts

theorem Single.join_ne_empty {child name : String} (single : Single child name) (base : String) :
    join base child ≠ "" :=
  Path.join_ne_empty base single.filled

/-- A text without separators is a relative path by the text itself, unless it has a meaning of its
own. -/
theorem single_of_name {name : String} (present : name ≠ "") (whole : '/' ∉ name.toList)
    (notHere : name ≠ ".") (notUp : name ≠ "..") : Single name name where
  relative := by
    rw [isAbsolute_eq]
    cases chars : name.toList with
    | nil => simp
    | cons first rest =>
      have away : first ≠ '/' := by
        rintro rfl
        exact whole (by simp [chars])
      simpa using away
  parts := by
    have filled : name.toList ≠ [] := by simpa using present
    simp [Path.parts_eq, List.splitOn_eq_singleton whole, filled]
  notHere := notHere
  notUp := notUp

/-- The pieces between separators hold none. -/
theorem splitOn_whole {text piece : List Char} (member : piece ∈ text.splitOn '/') :
    '/' ∉ piece := by
  induction text generalizing piece with
  | nil =>
    rw [List.splitOn_nil, List.mem_singleton] at member
    simp [member]
  | cons first rest inductionHypothesis =>
    rw [List.splitOn_cons_eq_if_modifyHead] at member
    cases separates : first == '/' with
    | true =>
      rw [separates] at member
      rcases List.mem_cons.mp member with rfl | later
      · simp
      · exact inductionHypothesis later
    | false =>
      have proper : first ≠ '/' := beq_eq_false_iff_ne.mp separates
      rw [separates] at member
      rcases split : rest.splitOn '/' with _ | ⟨head, others⟩
      · rw [split] at member
        cases member
      · rw [split] at member inductionHypothesis
        rcases List.mem_cons.mp member with rfl | later
        · have headWhole := inductionHypothesis List.mem_cons_self
          simp [headWhole, proper.symm]
        · exact inductionHypothesis (List.mem_cons_of_mem _ later)

/-- A single name that is spelled as itself holds no separator. -/
theorem Single.whole {name : String} (single : Single name name) : '/' ∉ name.toList := by
  have listed : name ∈ Path.parts name := by simp [single.parts]
  rw [Path.parts_eq] at listed
  obtain ⟨piece, member, spelled⟩ := List.mem_map.mp listed
  rw [← spelled, String.toList_ofList]
  exact splitOn_whole (List.mem_filter.mp member).1

/-- A part of a path is spelled as itself. -/
theorem single_of_parts {child first : String} {rest : List String}
    (parts : Path.parts child = first :: rest) (notHere : first ≠ ".") (notUp : first ≠ "..") :
    Single first first := by
  have listed : first ∈ Path.parts child := by simp [parts]
  rw [Path.parts_eq] at listed
  obtain ⟨piece, member, rfl⟩ := List.mem_map.mp listed
  obtain ⟨split, present⟩ := List.mem_filter.mp member
  refine single_of_name ?_ ?_ notHere notUp
  · simpa using present
  · rw [String.toList_ofList]
    exact splitOn_whole split

/-- What is joined by a single name does not ask for a directory. -/
theorem Single.join_named {name : String} (single : Single name name) (base : String) :
    endsInSeparator (join base name) = false := by
  rw [endsInSeparator_join base single.filled]
  rw [endsInSeparator_eq, decide_eq_false_iff_not]
  exact fun ends => single.whole (List.mem_of_getLast? ends)

/-- A text without separators has no second part. -/
theorem parts_whole {name first : String} {rest : List String} (whole : '/' ∉ name.toList)
    (split : Path.parts name = first :: rest) : rest = [] := by
  rw [Path.parts_eq, List.splitOn_eq_singleton whole, List.filter_cons] at split
  split at split
  · exact ((List.cons.inj split).2).symm
  · cases split

/-- The first piece of a text begins as the text does, up to the first separator. -/
theorem splitOn_append (stem tail : List Char) (whole : '/' ∉ stem) :
    (stem ++ tail).splitOn '/' = (tail.splitOn '/').modifyHead (stem ++ ·) := by
  induction stem with
  | nil =>
    rw [List.nil_append]
    cases tail.splitOn '/' <;> rfl
  | cons first rest inductionHypothesis =>
    have away : (first == '/') = false := by
      rw [beq_eq_false_iff_ne]
      rintro rfl
      exact whole List.mem_cons_self
    have restWhole : '/' ∉ rest := fun inside => whole (List.mem_cons_of_mem _ inside)
    rw [List.cons_append, List.splitOn_cons_eq_if_modifyHead, away, inductionHypothesis restWhole]
    cases tail.splitOn '/' <;> rfl

/-- The first piece of a text is how the text begins. -/
theorem splitOn_head (text : List Char) :
    ∃ head others, text.splitOn '/' = head :: others ∧ head <+: text := by
  induction text with
  | nil => exact ⟨[], [], rfl, List.prefix_rfl⟩
  | cons first rest inductionHypothesis =>
    obtain ⟨head, others, split, begins⟩ := inductionHypothesis
    rw [List.splitOn_cons_eq_if_modifyHead, split]
    cases first == '/' with
    | true => exact ⟨[], head :: others, rfl, List.nil_prefix⟩
    | false => exact ⟨first :: head, others, rfl, (List.prefix_cons_inj first).mpr begins⟩

/-- A text that begins with something proper has a proper first part. -/
theorem exists_parts {stem : String} {character : Char} (inside : character ∈ stem.toList)
    (proper : character ≠ '.') (whole : '/' ∉ stem.toList) (tail : String) :
    ∃ head rest, parts (stem ++ tail) = String.ofList (stem.toList ++ head) :: rest ∧
      head <+: tail.toList ∧ String.ofList (stem.toList ++ head) ≠ "." ∧
        String.ofList (stem.toList ++ head) ≠ ".." := by
  obtain ⟨head, others, split, begins⟩ := splitOn_head tail.toList
  have filled : stem.toList ++ head ≠ [] := by
    intro empty
    rw [(List.append_eq_nil_iff.mp empty).1] at inside
    cases inside
  have first : parts (stem ++ tail) = String.ofList (stem.toList ++ head) ::
      (others.filter (· ≠ [])).map String.ofList := by
    simp [parts, splitOn_append _ _ whole, split, filled]
  have member : character ∈ (String.ofList (stem.toList ++ head)).toList := by
    simp [inside]
  refine ⟨head, _, first, begins, ?_, ?_⟩
  · intro same
    rw [same] at member
    exact proper (by simpa using member)
  · intro same
    rw [same] at member
    exact proper (by simpa using member)

/-- A text that begins with something other than a separator is not absolute. -/
theorem relative_of_stem {stem : String} {character : Char} (inside : character ∈ stem.toList)
    (whole : '/' ∉ stem.toList) (tail : String) : isAbsolute (stem ++ tail) = false := by
  rw [isAbsolute_eq]
  cases chars : stem.toList with
  | nil => simp [chars] at inside
  | cons first rest =>
    have away : first ≠ '/' := by
      rintro rfl
      exact whole (by simp [chars])
    simpa [chars] using away

end Path

namespace Files

/-- A walk that goes on from a directory, step by step up to the first link to follow. -/
theorem walkTo_append {files : Files} {leap leapOther : Location → String → List String →
      Except FileError Spot} {names : List String} {current directory : Location}
    {good : Except FileError Spot → Prop} {follow : Bool} {more : List String} (going : more ≠ [])
    (reached : walkTo files true leap current names = .ok (.taken directory .directory))
    (here : good (walkTo files follow leapOther directory more))
    (leaps : ∀ here target rest, leap here target rest = .ok (.taken directory .directory) →
      good (leapOther here target (rest ++ more))) :
    good (walkTo files follow leapOther current (names ++ more)) := by
  induction names generalizing current with
  | nil =>
    cases reached
    exact here
  | cons name rest inductionHypothesis =>
    rw [List.cons_append]
    by_cases isHere : name = "."
    · subst isHere
      exact inductionHypothesis reached
    by_cases isUp : name = ".."
    · subst isUp
      exact inductionHypothesis reached
    rw [walkTo_name files true leap current isHere isUp] at reached
    rw [walkTo_name files follow leapOther current isHere isUp]
    split at reached
    · cases reached
    · next short =>
      have unended : (rest ++ more).isEmpty = false := by simp [going]
      rw [if_neg short]
      rcases stands : files.node? (current ++ [name]) with _ | ⟨content, modified⟩ | _ | target
      all_goals rw [stands] at reached
      · dsimp only at reached
        split at reached <;> cases reached
      · dsimp only at reached
        split at reached <;> cases reached
      · exact inductionHypothesis reached
      · simp only [Bool.not_true, Bool.and_false, Bool.false_eq_true, ↓reduceIte] at reached
        simp only [unended, Bool.false_and, Bool.false_eq_true, ↓reduceIte]
        exact leaps current target rest reached

/-- A walk that goes on from a directory goes on as if it began there, but for the links already
followed. -/
theorem walk_append {files : Files} {budget : Nat} {names : List String}
    {current directory : Location} (follow : Bool) {more : List String} (going : more ≠ [])
    (reached : walk files true budget current names = .ok (.taken directory .directory)) :
    ∃ fewer, walk files follow budget current (names ++ more) =
      walk files follow fewer directory more := by
  let good : Except FileError Spot → Prop :=
    fun result => ∃ fewer, result = walk files follow fewer directory more
  change good (walk files follow budget current (names ++ more))
  induction budget generalizing current names with
  | zero =>
    have here : good (walk files follow 0 directory more) := ⟨0, rfl⟩
    refine walkTo_append going reached here ?_
    intro current target rest impossible
    cases impossible
  | succ fewer inductionHypothesis =>
    have here : good (walk files follow (fewer + 1) directory more) := ⟨fewer + 1, rfl⟩
    refine walkTo_append going reached here ?_
    intro current target rest leapt
    split at leapt
    · cases leapt
    · next present =>
      rw [if_neg present, ← List.append_assoc]
      exact inductionHypothesis leapt

/-- Whether a path can be asked for at all. -/
def Askable (path : String) : Prop :=
  '\x00' ∉ path.toList ∧ path ≠ "" ∧ path.utf8ByteSize ≤ 4095

/-- A path that can be asked for is walked. -/
theorem locate_of_askable (files : Files) (follow : Bool) {path : String}
    (askable : Askable path) :
    files.locate follow path =
      walk files follow 40 (if Path.isAbsolute path then [] else workingDirectory)
        (Path.parts path) := by
  obtain ⟨noNull, present, fits⟩ := askable
  rw [locate, Text.chars_eq, if_neg noNull, if_neg present, if_neg (by omega)]

/-- A path that cannot be asked for is refused, and not because nothing is there, unless the path is
empty. -/
theorem locate_of_not_askable (files : Files) (follow : Bool) {path : String}
    (unaskable : ¬ Askable path) : ∃ error, files.locate follow path = .error error ∧
      (path ≠ "" → error ≠ .notFound) := by
  rw [locate, Text.chars_eq]
  split
  · exact ⟨.unusableData, rfl, fun _ impossible => by cases impossible⟩
  · next noNull =>
    split
    · next empty => exact ⟨.notFound, rfl, fun present => absurd empty present⟩
    · next present =>
      split
      · exact ⟨.invalidFilename, rfl, fun _ impossible => by cases impossible⟩
      · next fits => exact absurd ⟨noNull, present, by omega⟩ unaskable

/-- A path that leads somewhere can be asked for. -/
theorem askable_of_locate {files : Files} {follow : Bool} {path : String} {spot : Spot}
    (led : files.locate follow path = .ok spot) : Askable path := by
  refine Classical.byContradiction fun unaskable => ?_
  obtain ⟨error, refused, _⟩ := files.locate_of_not_askable follow unaskable
  rw [refused] at led
  cases led

/-- A path into a directory leads on from that directory. -/
theorem locate_join {files : Files} {base child : String} {directory : Location}
    (reached : files.locate true base = .ok (.taken directory .directory))
    (relative : Path.isAbsolute child = false) (going : Path.parts child ≠ [])
    (askable : Askable (Path.join base child)) (follow : Bool) :
    ∃ fewer, files.locate follow (Path.join base child) =
      walk files follow fewer directory (Path.parts child) := by
  have baseAskable := askable_of_locate reached
  have present := baseAskable.2.1
  rw [locate_of_askable files true baseAskable] at reached
  rw [locate_of_askable files follow askable, Path.isAbsolute_join present relative,
    Path.parts_join present relative]
  exact walk_append follow going reached

/-- What is found by a name in a directory. -/
def spotIn (files : Files) (directory : Location) (name : String) : Spot :=
  match files.node? (directory ++ [name]) with
  | none => .free directory name
  | some node => .taken (directory ++ [name]) node

/-- A walk by one proper name, where no link has to be followed. -/
theorem walk_single (files : Files) (follow : Bool) (budget : Nat) (directory : Location)
    {name : String} (notHere : name ≠ ".") (notUp : name ≠ "..")
    (noLink : follow = true → ∀ target, files.node? (directory ++ [name]) ≠ some (.link target)) :
    walk files follow budget directory [name] =
      if isOverlong name then .error .invalidFilename else .ok (spotIn files directory name) := by
  have step : ∀ leap, walkTo files follow leap directory [name] =
      if isOverlong name then .error .invalidFilename
      else .ok (spotIn files directory name) := by
    intro leap
    rw [walkTo_name files follow leap directory notHere notUp]
    unfold spotIn
    rcases stands : files.node? (directory ++ [name]) with _ | ⟨content, modified⟩ | _ | target
    · rfl
    · rfl
    · rfl
    · cases follow with
      | false => rfl
      | true => exact absurd stands (noLink rfl target)
  cases budget with
  | zero => exact step _
  | succ fewer => exact step _

/-- The path into a directory can be asked for and its name can stand there. -/
def Usable (base child name : String) : Prop :=
  Askable (Path.join base child) ∧ isOverlong name = false

variable {files : Files} {base child name : String} {directory : Location}

/-- A usable path by a single name leads to that name in the directory. -/
theorem locate_usable (reached : files.locate true base = .ok (.taken directory .directory))
    (single : Path.Single child name) (usable : Usable base child name) (follow : Bool)
    (noLink : follow = true → ∀ target, files.node? (directory ++ [name]) ≠ some (.link target)) :
    files.locate follow (Path.join base child) = .ok (spotIn files directory name) := by
  have going : Path.parts child ≠ [] := by simp [single.parts]
  obtain ⟨fewer, led⟩ := locate_join reached single.relative going usable.1 follow
  rw [led, single.parts, walk_single files follow fewer directory single.notHere single.notUp
    noLink, usable.2]
  rfl

/-- A path by a single name that is not usable is refused, and not because nothing is there. -/
theorem locate_unusable (reached : files.locate true base = .ok (.taken directory .directory))
    (single : Path.Single child name) (unusable : ¬ Usable base child name) (follow : Bool) :
    ∃ error, files.locate follow (Path.join base child) = .error error ∧ error ≠ .notFound := by
  rcases Classical.em (Askable (Path.join base child)) with askable | unaskable
  · have going : Path.parts child ≠ [] := by simp [single.parts]
    obtain ⟨fewer, led⟩ := locate_join reached single.relative going askable follow
    have overlong : isOverlong name = true := by
      rw [← Bool.not_eq_false]
      exact fun fits => unusable ⟨askable, fits⟩
    have step : ∀ leap, walkTo files follow leap directory [name] = .error .invalidFilename := by
      intro leap
      rw [walkTo_name files follow leap directory single.notHere single.notUp, overlong]
      rfl
    refine ⟨.invalidFilename, ?_, fun impossible => by cases impossible⟩
    rw [led, single.parts]
    cases fewer with
    | zero => exact step _
    | succ fewer => exact step _
  · obtain ⟨error, refused, present⟩ := locate_of_not_askable files follow unaskable
    exact ⟨error, refused, present (single.join_ne_empty base)⟩

/-- Where a path by a single name leads, if it leads anywhere. -/
theorem place_single (reached : files.locate true base = .ok (.taken directory .directory))
    (single : Path.Single child name)
    (noLink : ∀ target, files.node? (directory ++ [name]) ≠ some (.link target))
    {location : Location} (place : files.place? true (Path.join base child) = some location) :
    location = directory ++ [name] := by
  unfold place? at place
  rcases Classical.em (Usable base child name) with usable | unusable
  · rw [locate_usable reached single usable true fun _ => noLink] at place
    unfold spotIn at place
    split at place <;> exact (Option.some.inj place).symm
  · obtain ⟨error, refused, _⟩ := locate_unusable reached single unusable true
    rw [refused] at place
    cases place

/-- Where no link stands, a path by a single name does not end at one. -/
theorem plain_single (reached : files.locate true base = .ok (.taken directory .directory))
    (single : Path.Single child name)
    (noLink : ∀ target, files.node? (directory ++ [name]) ≠ some (.link target)) :
    Plain files (Path.join base child) := by
  intro location target found
  have truthful := files.locate_truthful false (Path.join base child)
  rw [found] at truthful
  rcases Classical.em (Usable base child name) with usable | unusable
  · have led := locate_usable reached single usable false fun impossible => by cases impossible
    rw [found] at led
    unfold spotIn at led
    split at led
    · cases led
    · cases led
      exact noLink target truthful.2
  · obtain ⟨error, refused, _⟩ := locate_unusable reached single unusable false
    rw [refused] at found
    cases found

/-- A path through something that is neither a directory nor a link is refused. -/
theorem locate_blocked (reached : files.locate true base = .ok (.taken directory .directory))
    (relative : Path.isAbsolute child = false) {first second : String} {rest : List String}
    (parts : Path.parts child = first :: second :: rest) (notHere : first ≠ ".")
    (notUp : first ≠ "..") (blocked : files.bone? (directory ++ [first]) = none) (follow : Bool) :
    ∃ error, files.locate follow (Path.join base child) = .error error := by
  rcases Classical.em (Askable (Path.join base child)) with askable | unaskable
  · have going : Path.parts child ≠ [] := by simp [parts]
    obtain ⟨fewer, led⟩ := locate_join reached relative going askable follow
    have step : ∀ leap, ∃ error,
        walkTo files follow leap directory (first :: second :: rest) = .error error := by
      intro leap
      rw [walkTo_name files follow leap directory notHere notUp]
      split
      · exact ⟨_, rfl⟩
      · unfold bone? at blocked
        rcases stands : files.node? (directory ++ [first]) with
          _ | ⟨content, modified⟩ | _ | target
        all_goals rw [stands] at blocked
        · exact ⟨_, rfl⟩
        · exact ⟨_, rfl⟩
        · cases blocked
        · cases blocked
    rw [led, parts]
    cases fewer with
    | zero => exact step _
    | succ fewer => exact step _
  · obtain ⟨error, refused, _⟩ := locate_of_not_askable files follow unaskable
    exact ⟨error, refused⟩

/-- A path that leads somewhere is a single name, unless it leads through a directory or a link. -/
theorem single_of_place (reached : files.locate true base = .ok (.taken directory .directory))
    (relative : Path.isAbsolute child = false) {first : String} {rest : List String}
    (parts : Path.parts child = first :: rest) (notHere : first ≠ ".") (notUp : first ≠ "..")
    (blocked : rest ≠ [] → files.bone? (directory ++ [first]) = none) {location : Location}
    (place : files.place? true (Path.join base child) = some location) :
    Path.Single child first := by
  cases rest with
  | nil => exact ⟨relative, parts, notHere, notUp⟩
  | cons second rest =>
    obtain ⟨error, refused⟩ :=
      locate_blocked reached relative parts notHere notUp (blocked (List.cons_ne_nil _ _)) true
    unfold place? at place
    rw [refused] at place
    cases place

end Files

end Hotload
