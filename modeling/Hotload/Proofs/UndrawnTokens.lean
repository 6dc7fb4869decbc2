import Hotload.Proofs.Traces

/-!
# Tokens that were not drawn

Staged files are told apart by tokens that are drawn for them, and a token is drawn once. As long as
nothing in the tree is called by a token that is still to be drawn, a path that is staged next is
blank, wherever the directory for staged files is and whatever links lead there. Working on that
path leaves the tokens after it undrawn.
-/

namespace Hotload

namespace Files

variable {files other : Files}

/-- At most files are called by a name, wherever they are. -/
def OnlyFiles (files : Files) (name : String) : Prop :=
  ∀ directory, files.bone? (directory ++ [name]) = none

/-- A walk through a name by which at most files are called is refused, or it ends there. -/
def EndsBy (files : Files) (name : String) (result : Except FileError Spot) : Prop :=
  (∃ error, result = .error error) ∨ ∃ directory, result = .ok (files.spotIn directory name)

theorem walkTo_endsBy {first : String} (onlyFiles : OnlyFiles files first) (notHere : first ≠ ".")
    (notUp : first ≠ "..") (follow : Bool)
    {leap : Location → String → List String → Except FileError Spot} {rest : List String}
    (leaps : ∀ current target names,
      EndsBy files first (leap current target (names ++ first :: rest)))
    (names : List String) (current : Location) :
    EndsBy files first (walkTo files follow leap current (names ++ first :: rest)) := by
  induction names generalizing current with
  | nil =>
    rw [List.nil_append, walkTo_name files follow leap current notHere notUp]
    split
    · exact .inl ⟨_, rfl⟩
    · cases rest with
      | nil =>
        refine .inr ⟨current, ?_⟩
        unfold spotIn
        rcases node?_of_bare (onlyFiles current) with empty | ⟨content, modified, stands⟩
        · rw [empty]
          rfl
        · rw [stands]
          rfl
      | cons =>
        rcases node?_of_bare (onlyFiles current) with empty | ⟨content, modified, stands⟩
        · rw [empty]
          exact .inl ⟨_, rfl⟩
        · rw [stands]
          exact .inl ⟨_, rfl⟩
  | cons name others inductionHypothesis =>
    rw [List.cons_append]
    by_cases isHere : name = "."
    · subst isHere
      exact inductionHypothesis current
    by_cases isUp : name = ".."
    · subst isUp
      exact inductionHypothesis current.dropLast
    rw [walkTo_name files follow leap current isHere isUp]
    have unended : (others ++ first :: rest).isEmpty = false := by simp
    split
    · exact .inl ⟨_, rfl⟩
    · rcases files.node? (current ++ [name]) with _ | ⟨content, modified⟩ | _ | target
      · exact .inl ⟨.notFound, by simp only [unended, Bool.false_eq_true, ↓reduceIte]⟩
      · exact .inl ⟨.notADirectory, by simp only [unended, Bool.false_eq_true, ↓reduceIte]⟩
      · exact inductionHypothesis _
      · simp only [unended, Bool.false_and, Bool.false_eq_true, ↓reduceIte]
        exact leaps current target others

theorem walk_endsBy {first : String} (onlyFiles : OnlyFiles files first) (notHere : first ≠ ".")
    (notUp : first ≠ "..") (follow : Bool) (budget : Nat) (current : Location)
    (names rest : List String) :
    EndsBy files first (walk files follow budget current (names ++ first :: rest)) := by
  induction budget generalizing current names with
  | zero =>
    refine walkTo_endsBy onlyFiles notHere notUp follow (fun _ _ _ => ?_) names current
    exact .inl ⟨_, rfl⟩
  | succ fewer inductionHypothesis =>
    refine walkTo_endsBy onlyFiles notHere notUp follow (fun here target others => ?_) names current
    split
    · exact .inl ⟨_, rfl⟩
    · rw [← List.append_assoc]
      exact inductionHypothesis _ _

/-- A path through such a name is refused, or it ends there. -/
theorem locate_endsBy {first : String} (onlyFiles : OnlyFiles files first) (notHere : first ≠ ".")
    (notUp : first ≠ "..") {path : String} {names rest : List String}
    (parts : Path.parts path = names ++ first :: rest) (follow : Bool) :
    EndsBy files first (files.locate follow path) := by
  unfold locate
  rw [parts]
  split
  · exact .inl ⟨_, rfl⟩
  · split
    · exact .inl ⟨_, rfl⟩
    · split
      · exact .inl ⟨_, rfl⟩
      · exact walk_endsBy onlyFiles notHere notUp follow 40 _ _ _

/-- A path through a name under which there are only files is a slot. -/
theorem slot_endsBy {first : String} (onlyFiles : OnlyFiles files first) (notHere : first ≠ ".")
    (notUp : first ≠ "..") {path : String} {names rest : List String}
    (parts : Path.parts path = names ++ first :: rest) : Slot files path := by
  have ends := locate_endsBy onlyFiles notHere notUp parts
  have plain : Plain files path := by
    intro location target found
    have truthful := files.locate_truthful false path
    rcases ends false with ⟨error, refused⟩ | ⟨directory, led⟩
    · rw [refused] at found
      cases found
    · rw [found] at truthful
      have same := Except.ok.inj (led.symm.trans found)
      unfold spotIn at same
      split at same
      · cases same
      · cases same
        exact noLink_of_bone (.inl (onlyFiles directory)) target truthful.2
  rcases ends false with ⟨error, refused⟩ | ⟨directory, led⟩
  · refine .inl fun follow => ⟨error, ?_⟩
    cases follow with
    | false => exact refused
    | true => rw [plain.locate, refused]
  · refine .inr ⟨directory, first, onlyFiles directory, fun follow => ?_⟩
    cases follow with
    | false => exact led
    | true => rw [plain.locate, led]

/-- What is written through such a path is called by the name. -/
theorem target_endsBy {first : String} (onlyFiles : OnlyFiles files first) (notHere : first ≠ ".")
    (notUp : first ≠ "..") {path : String} {names rest : List String}
    (parts : Path.parts path = names ++ first :: rest) {location : Location}
    (aimed : files.target? path = some location) :
    ∃ directory, location = directory ++ [first] := by
  unfold target? at aimed
  split at aimed
  · cases aimed
  · unfold place? at aimed
    rcases locate_endsBy onlyFiles notHere notUp parts true with ⟨error, refused⟩ | ⟨directory, led⟩
    · rw [refused] at aimed
      cases aimed
    · rw [led] at aimed
      unfold spotIn at aimed
      split at aimed <;> exact ⟨directory, (Option.some.inj aimed).symm⟩

end Files

open Files

namespace Session

/-- A name that begins with the token of a number, after some digest. -/
def Bears (number : Nat) (name : String) : Prop :=
  ∃ key extension rest,
    Path.parts (Staging.withExtension (stagedStem key number) extension) = name :: rest

/-- A name bears one token. -/
theorem Bears.number {number other : Nat} {name : String} (bears : Bears number name)
    (bearsOther : Bears other name) : number = other := by
  obtain ⟨_, _, _, parts⟩ := bears
  obtain ⟨_, _, _, otherParts⟩ := bearsOther
  exact staged_number parts otherParts

/-- A name that bears a token has an underscore. -/
theorem Bears.underscore {number : Nat} {name : String} (bears : Bears number name) :
    '_' ∈ name.toList := by
  obtain ⟨key, extension, rest, parts⟩ := bears
  have inside : '_' ∈ (stagedStem key number).toList := by
    rw [stagedStem_toList]
    simp
  rw [Staging.withExtension_eq] at parts
  obtain ⟨head, others, split, _⟩ := Path.exists_parts inside (by decide)
    (stagedStem_whole key number) (Staging.extensionTail extension)
  rw [parts] at split
  rw [(List.cons.inj split).1, String.toList_ofList]
  exact List.mem_append_left _ inside

/-- Nothing in the tree is called by a token from a number on. -/
def UndrawnFrom (number : Nat) (files : Files) : Prop :=
  ∀ later name, number ≤ later → Bears later name → ∀ directory,
    files.node? (directory ++ [name]) = none

/-- No token that is still to be drawn is in use. -/
def Undrawn (session : Session) : Prop :=
  UndrawnFrom session.fresh session.files

variable {files other : Files} {number : Nat}

theorem UndrawnFrom.same (undrawn : UndrawnFrom number files) (same : SameTree files other) :
    UndrawnFrom number other := by
  intro later name from_ bears directory
  rw [same, undrawn later name from_ bears]

/-- No token is in use where no name has an underscore. -/
theorem undrawnFrom_of_names (named : ∀ entry ∈ files.entries, ∀ name ∈ entry.1, '_' ∉ name.toList)
    (number : Nat) : UndrawnFrom number files := by
  intro later name _ bears directory
  unfold node?
  rw [if_neg (by simp), List.lookup_eq_none_iff]
  intro entry listed
  refine bne_iff_ne.mpr fun here => ?_
  exact named entry listed name (by rw [← here]; simp) bears.underscore

/-- The parts of a staged path end with a name that bears its token, and what follows it. -/
theorem pathFor_parts (staging : Staging) (key : String) (extension : Option String)
    (number : Nat) :
    ∃ names first rest, Path.parts (staging.pathFor key extension (tokenText number)) =
      names ++ first :: rest ∧ Bears number first ∧ first ≠ "." ∧ first ≠ ".." := by
  obtain ⟨relative, first, rest, parts, notHere, notUp⟩ := staged_parts key number extension
  rw [pathFor_eq]
  have bears : Bears number first := ⟨key, extension, rest, parts⟩
  by_cases nowhere : staging.layout.staging = ""
  · refine ⟨[], first, rest, ?_, bears, notHere, notUp⟩
    rw [nowhere, List.nil_append, ← parts]
    simp [Path.join, relative]
  · refine ⟨Path.parts staging.layout.staging, first, rest, ?_, bears, notHere, notUp⟩
    rw [Path.parts_join nowhere relative, parts]

/-- At most files are called by a token that is still to be drawn: nothing is. -/
theorem UndrawnFrom.onlyFiles (undrawn : UndrawnFrom number files) {name : String}
    (bears : Bears number name) : OnlyFiles files name := by
  intro directory
  unfold bone?
  rw [undrawn number name (Nat.le_refl _) bears]
  rfl

/-- What is written through a path that is staged with an undrawn token is called by that token. -/
theorem UndrawnFrom.target (undrawn : UndrawnFrom number files) {staging : Staging} {key : String}
    {extension : Option String} {location : Location}
    (aimed : files.target? (staging.pathFor key extension (tokenText number)) = some location) :
    ∃ directory name, location = directory ++ [name] ∧ Bears number name := by
  obtain ⟨names, first, rest, parts, bears, notHere, notUp⟩ :=
    pathFor_parts staging key extension number
  obtain ⟨directory, rfl⟩ := target_endsBy (undrawn.onlyFiles bears) notHere notUp parts aimed
  exact ⟨directory, first, rfl, bears⟩

/-- A path that is staged with an undrawn token is blank. -/
theorem UndrawnFrom.blank (undrawn : UndrawnFrom number files) (staging : Staging)
    (key : String) (extension : Option String) :
    Blank files (staging.pathFor key extension (tokenText number)) where
  slot := by
    intro other skeleton
    obtain ⟨names, first, rest, parts, bears, notHere, notUp⟩ :=
      pathFor_parts staging key extension number
    refine slot_endsBy (fun directory => ?_) notHere notUp parts
    rw [skeleton, undrawn.onlyFiles bears]
  empty := by
    intro location aimed
    obtain ⟨directory, name, rfl, bears⟩ := undrawn.target aimed
    exact undrawn number name (Nat.le_refl _) bears directory

/-- Working on a path that is staged with the next token leaves the tokens after it undrawn. -/
theorem UndrawnFrom.touched (undrawn : UndrawnFrom number files) {staging : Staging}
    {key : String} {extension : Option String}
    (touches : Touches (staging.pathFor key extension (tokenText number)) files other) :
    UndrawnFrom (number + 1) other := by
  intro later name from_ bears directory
  rw [touches.elsewhere, undrawn later name (by omega) bears]
  intro aimed
  obtain ⟨there, first, same, bearsFirst⟩ := undrawn.target aimed
  have last := congrArg List.getLast? same
  simp only [List.getLast?_append, List.getLast?_singleton, Option.some_or,
    Option.some.injEq] at last
  have numbers := bearsFirst.number (last ▸ bears)
  omega

end Session

end Hotload
