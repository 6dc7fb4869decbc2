import Hotload.Reaper.Basic
import Mathlib.Data.Finset.Basic
import Mathlib.Logic.Relation

/-!
# Releasing a file of passing use

Any number of threads may share a file of passing use. References are copied and dropped in any
order, the file is released through any of them at any time, and whoever drops the last one releases
it as well. A release looks at the mark of the file and sets it, and removes the file only if the
mark was not set before; anything may happen between the two, also at the path of the file.

The release that looks first is the only one that removes anything. A reference is not dropped while
something is released through it, so when the last one is dropped all other releases are over.
-/

namespace Hotload

namespace TemporaryFile

/-- Where a release stands. -/
inductive ReleasePhase where
  | asked
  /-- The mark is set, and the file has to be removed. -/
  | removing
  | ended (result : Except FileError Bool)

/-- Whether a release is over. -/
def ReleasePhase.isEnded : ReleasePhase → Bool
  | .ended _ => true
  | _ => false

/-- A release through a reference, or by whoever dropped the last reference. -/
structure Release where
  through : Option Nat
  phase : ReleasePhase

/-- A file of passing use that is shared, with all that is done to it. Releases are known by their
places in the list. -/
structure Sharing where
  temporary : TemporaryFile
  files : Files
  /-- The references that are alive. -/
  references : Finset Nat
  releases : List Release
  /-- The releases that looked at the mark, in the order in which they did. -/
  looked : List Nat
  /-- The releases that tried to remove the file. -/
  attempts : List Nat

namespace Sharing

/-- A file that was just tracked. -/
def tracked (path : String) (files : Files) (reference : Nat) : Sharing :=
  ⟨⟨path, false⟩, files, {reference}, [], [], []⟩

/-- The next step of a release. -/
def goOn (state : Sharing) (number : Nat) : Sharing :=
  match state.releases[number]? with
  | some ⟨through, .asked⟩ =>
    { state with
      temporary := ⟨state.temporary.path, true⟩
      releases := state.releases.set number
        ⟨through, if state.temporary.isReleased then .ended (.ok false) else .removing⟩
      looked := state.looked ++ [number] }
  | some ⟨through, .removing⟩ =>
    { state with
      files := (state.files.removeIfExists state.temporary.path).1
      releases := state.releases.set number
        ⟨through, .ended (state.files.removeIfExists state.temporary.path).2⟩
      attempts := state.attempts ++ [number] }
  | _ => state

/-- A reference is dropped. The last one takes the file along. -/
def drop (state : Sharing) (reference : Nat) : Sharing :=
  { state with
    references := state.references.erase reference
    releases :=
      if state.references.erase reference = ∅ then state.releases ++ [⟨none, .asked⟩]
      else state.releases }

end Sharing

/-- One step of any of those who share a file, or of anything else that changes files. To set the
mark and to remove the file are two steps of a release, between which others may take theirs. A
reference is dropped only when no release through it is under way, and the drop of the last one
releases the file. -/
inductive SharingStep : Sharing → Sharing → Prop
  | change (state : Sharing) (files : Files) : SharingStep state { state with files }
  | clone (state : Sharing) (reference copy : Nat) (alive : reference ∈ state.references)
      (isNew : copy ∉ state.references) :
      SharingStep state { state with references := insert copy state.references }
  | ask (state : Sharing) (reference : Nat) (alive : reference ∈ state.references) :
      SharingStep state { state with releases := state.releases ++ [⟨some reference, .asked⟩] }
  | goOn (state : Sharing) (number : Nat) : SharingStep state (state.goOn number)
  | drop (state : Sharing) (reference : Nat) (alive : reference ∈ state.references)
      (unused : ∀ release ∈ state.releases, release.through = some reference →
        release.phase.isEnded = true) :
      SharingStep state (state.drop reference)

namespace Sharing

variable {state : Sharing} {number : Nat} {through : Option Nat}

theorem goOn_asked (there : state.releases[number]? = some ⟨through, .asked⟩) :
    state.goOn number =
      { state with
        temporary := ⟨state.temporary.path, true⟩
        releases := state.releases.set number
          ⟨through, if state.temporary.isReleased then .ended (.ok false) else .removing⟩
        looked := state.looked ++ [number] } := by
  simp only [goOn, there]

theorem goOn_removing (there : state.releases[number]? = some ⟨through, .removing⟩) :
    state.goOn number =
      { state with
        files := (state.files.removeIfExists state.temporary.path).1
        releases := state.releases.set number
          ⟨through, .ended (state.files.removeIfExists state.temporary.path).2⟩
        attempts := state.attempts ++ [number] } := by
  simp only [goOn, there]

/-- A release that is over does nothing more. -/
theorem goOn_ended {result : Except FileError Bool}
    (there : state.releases[number]? = some ⟨through, .ended result⟩) :
    state.goOn number = state := by
  simp only [goOn, there]

/-- A release that goes on leaves the others where they are. -/
theorem getElem?_goOn {release : Release} (there : state.releases[number]? = some release)
    (next : Release) (other : Nat) :
    (state.releases.set number next)[other]? =
      if other = number then some next else state.releases[other]? := by
  obtain ⟨inside, _⟩ := List.getElem?_eq_some_iff.mp there
  rw [List.getElem?_set]
  by_cases same : number = other
  · simp [same, same ▸ inside]
  · simp [same, Ne.symm same]

/-- A release that nothing interrupts does what `release` does. -/
theorem goOn_uninterrupted (there : state.releases[number]? = some ⟨through, .asked⟩) :
    ∃ result, ((state.goOn number).goOn number).releases[number]? = some ⟨through, .ended result⟩ ∧
      state.temporary.release state.files =
        (((state.goOn number).goOn number).temporary, ((state.goOn number).goOn number).files,
          result) := by
  have looked := goOn_asked there
  have moved := getElem?_goOn there
    ⟨through, if state.temporary.isReleased then .ended (.ok false) else .removing⟩ number
  rw [if_pos rfl] at moved
  cases marked : state.temporary.isReleased with
  | true =>
    simp only [marked, ↓reduceIte] at looked moved
    have ended : (state.goOn number).releases[number]? = some ⟨through, .ended (.ok false)⟩ := by
      rw [looked]
      exact moved
    rw [goOn_ended ended]
    refine ⟨.ok false, ended, ?_⟩
    have same : (⟨state.temporary.path, true⟩ : TemporaryFile) = state.temporary := by
      rw [← marked]
    simp [TemporaryFile.release, marked, looked, same]
  | false =>
    simp only [marked, Bool.false_eq_true, ↓reduceIte] at looked moved
    have next : (state.goOn number).releases[number]? = some ⟨through, .removing⟩ := by
      rw [looked]
      exact moved
    have removed := getElem?_goOn next ⟨through,
      .ended ((state.goOn number).files.removeIfExists (state.goOn number).temporary.path).2⟩ number
    rw [if_pos rfl] at removed
    rw [goOn_removing next]
    exact ⟨_, removed, by simp [TemporaryFile.release, marked, looked]⟩

/-- Two steps of its own take any release to its end. -/
theorem exists_ended (inside : number < state.releases.length) :
    ∃ through result, ((state.goOn number).goOn number).releases[number]? =
      some ⟨through, .ended result⟩ := by
  obtain ⟨⟨through, phase⟩, there⟩ : ∃ release, state.releases[number]? = some release :=
    ⟨_, List.getElem?_eq_getElem inside⟩
  cases phase with
  | asked =>
    obtain ⟨result, ended, _⟩ := goOn_uninterrupted there
    exact ⟨through, result, ended⟩
  | removing =>
    have ended : (state.goOn number).releases[number]? =
        some ⟨through, .ended (state.files.removeIfExists state.temporary.path).2⟩ := by
      rw [goOn_removing there]
      exact (getElem?_goOn there _ number).trans (if_pos rfl)
    rw [goOn_ended ended]
    exact ⟨through, _, ended⟩
  | ended result =>
    rw [goOn_ended there, goOn_ended there]
    exact ⟨through, result, there⟩

/-! ## The release that looks first -/

/-- Where a release can stand, given which releases looked and which tried to remove the file. -/
def Placed (looked attempts : List Nat) (number : Nat) : ReleasePhase → Prop
  | .asked => number ∉ looked
  | .removing => looked.head? = some number ∧ attempts = []
  | .ended result =>
    number ∈ looked ∧
      (looked.head? = some number ∧ attempts = [number] ∨
        looked.head? ≠ some number ∧ result = .ok false)

/-- What holds of a shared file at any time. -/
structure Orderly (path : String) (state : Sharing) : Prop where
  path : state.temporary.path = path
  marked : state.temporary.isReleased = true ↔ state.looked ≠ []
  listed : ∀ number ∈ state.looked, number < state.releases.length
  attempted : state.attempts = [] ∨ state.attempts = state.looked.head?.toList
  placed : ∀ number release, state.releases[number]? = some release →
    Placed state.looked state.attempts number release.phase
  /-- Nobody drops a reference that is released through. -/
  held : ∀ release ∈ state.releases, release.phase.isEnded = false →
    ∀ reference, release.through = some reference → reference ∈ state.references
  /-- The release of the last drop comes after all others. -/
  last : ∀ number phase, state.releases[number]? = some ⟨none, phase⟩ →
    state.references = ∅ ∧ number + 1 = state.releases.length ∧
      (state.looked.head? = some number → number = 0)
  dropped : state.references = ∅ → ∃ release ∈ state.releases, release.through = none

variable {path : String}

theorem orderly_tracked (files : Files) (reference : Nat) :
    Orderly path (tracked path files reference) where
  path := rfl
  marked := by simp [tracked]
  listed := nofun
  attempted := .inl rfl
  placed := nofun
  held := nofun
  last := nofun
  dropped empty := absurd empty (Finset.singleton_ne_empty reference)

namespace Orderly

variable (orderly : Orderly path state)

include orderly

/-- While a reference is alive, the last one was not dropped. -/
theorem through_ne_none {reference : Nat} (alive : reference ∈ state.references)
    {release : Release} (listed : release ∈ state.releases) : release.through ≠ none := by
  intro last
  obtain ⟨number, there⟩ := List.getElem?_of_mem listed
  obtain ⟨through, phase⟩ := release
  obtain rfl : through = none := last
  rw [(orderly.last number phase there).1] at alive
  simp at alive

/-- Once the last reference was dropped, all releases through references are over. -/
theorem isEnded_of_none (gone : state.references = ∅) {release : Release}
    (listed : release ∈ state.releases) (through : release.through ≠ none) :
    release.phase.isEnded = true := by
  obtain ⟨reference, known⟩ := Option.ne_none_iff_exists'.mp through
  by_contra unended
  have held := orderly.held release listed (Bool.eq_false_of_not_eq_true unended) reference known
  rw [gone] at held
  simp at held

/-- A release that is added has looked at nothing. -/
theorem placed_append (through : Option Nat) (number : Nat) (release : Release)
    (there : (state.releases ++ [⟨through, .asked⟩])[number]? = some release) :
    Placed state.looked state.attempts number release.phase := by
  rcases Nat.lt_or_ge number state.releases.length with inside | beyond
  · rw [List.getElem?_append_left inside] at there
    exact orderly.placed number release there
  · rw [List.getElem?_append_right beyond] at there
    obtain rfl : release = ⟨through, .asked⟩ := List.mem_singleton.mp (List.mem_of_getElem? there)
    exact fun looked => absurd (orderly.listed number looked) (Nat.not_lt.mpr beyond)

theorem listed_append (release : Release) (number : Nat) (looked : number ∈ state.looked) :
    number < (state.releases ++ [release]).length := by
  have := orderly.listed number looked
  simp only [List.length_append, List.length_singleton]
  omega

theorem change (files : Files) : Orderly path { state with files } :=
  { orderly with }

theorem clone {reference copy : Nat} (alive : reference ∈ state.references) :
    Orderly path { state with references := insert copy state.references } :=
  { orderly with
    held := fun release listed unended reference through =>
      Finset.mem_insert_of_mem (orderly.held release listed unended reference through)
    last := fun _ _ there =>
      absurd rfl (orderly.through_ne_none alive (List.mem_of_getElem? there))
    dropped := fun empty => absurd empty (Finset.insert_ne_empty copy state.references) }

theorem ask {reference : Nat} (alive : reference ∈ state.references) :
    Orderly path { state with releases := state.releases ++ [⟨some reference, .asked⟩] } :=
  { orderly with
    listed := orderly.listed_append _
    placed := orderly.placed_append _
    held := by
      intro release listed unended other through
      rcases List.mem_append.mp listed with before | added
      · exact orderly.held release before unended other through
      · obtain rfl := List.mem_singleton.mp added
        obtain rfl : reference = other := Option.some.inj through
        exact alive
    last := by
      intro number phase there
      rcases List.mem_append.mp (List.mem_of_getElem? there) with before | added
      · exact absurd rfl (orderly.through_ne_none alive before)
      · exact nomatch List.mem_singleton.mp added
    dropped := fun empty => absurd empty (Finset.ne_empty_of_mem alive) }

theorem drop {reference : Nat} (alive : reference ∈ state.references)
    (unused : ∀ release ∈ state.releases, release.through = some reference →
      release.phase.isEnded = true) :
    Orderly path (state.drop reference) := by
  have stays : ∀ release ∈ state.releases, release.phase.isEnded = false →
      ∀ other, release.through = some other → other ∈ state.references.erase reference := by
    intro release listed unended other through
    refine Finset.mem_erase.mpr ⟨?_, orderly.held release listed unended other through⟩
    rintro rfl
    rw [unused release listed through] at unended
    cases unended
  unfold Sharing.drop
  split
  next empty =>
    refine { orderly with
      listed := orderly.listed_append _
      placed := orderly.placed_append _
      held := fun release listed unended other through => ?_
      last := fun number phase there => ?_
      dropped := fun _ => ⟨_, List.mem_append_right _ (List.mem_singleton_self _), rfl⟩ }
    · rcases List.mem_append.mp listed with before | added
      · exact stays release before unended other through
      · obtain rfl := List.mem_singleton.mp added
        cases through
    · rcases Nat.lt_or_ge number state.releases.length with inside | beyond
      · rw [List.getElem?_append_left inside] at there
        exact absurd rfl (orderly.through_ne_none alive (List.mem_of_getElem? there))
      · obtain ⟨within, _⟩ := List.getElem?_eq_some_iff.mp there
        refine ⟨empty, by simp at within ⊢; omega, fun first => ?_⟩
        exact absurd (orderly.listed number (List.mem_of_mem_head? first)) (Nat.not_lt.mpr beyond)
  next others =>
    exact { orderly with
      held := stays
      last := fun number phase there =>
        absurd rfl (orderly.through_ne_none alive (List.mem_of_getElem? there))
      dropped := fun gone => absurd gone others }

/-- A release that goes on leaves references and the other releases as they are. -/
theorem move {phase next : ReleasePhase}
    (there : state.releases[number]? = some ⟨through, phase⟩) (unended : phase.isEnded = false)
    {temporary : TemporaryFile} {looked attempts : List Nat} (files : Files)
    (same : temporary.path = path) (marked : temporary.isReleased = true ↔ looked ≠ [])
    (listed : ∀ other ∈ looked, other = number ∨ other ∈ state.looked)
    (attempted : attempts = [] ∨ attempts = looked.head?.toList)
    (placed : Placed looked attempts number next)
    (others : ∀ other release, other ≠ number → state.releases[other]? = some release →
      Placed looked attempts other release.phase)
    (first : ∀ other, looked.head? = some other → through = none ∧ other = number → other = 0)
    (follows : ∀ other, looked.head? = some other → other ≠ number →
      state.looked.head? = some other) :
    Orderly path ⟨temporary, files, state.references, state.releases.set number ⟨through, next⟩,
      looked, attempts⟩ := by
  obtain ⟨inside, _⟩ := List.getElem?_eq_some_iff.mp there
  have moved := getElem?_goOn there ⟨through, next⟩
  refine ⟨same, marked, fun other looks => ?_, attempted, fun other release found => ?_,
    fun release found running reference known => ?_, fun other stage found => ?_, fun gone => ?_⟩
  · rw [List.length_set]
    rcases listed other looks with rfl | before
    · exact inside
    · exact orderly.listed other before
  · rw [moved] at found
    split at found
    next here =>
      obtain rfl := Option.some.inj found
      exact here ▸ placed
    next elsewhere => exact others other release elsewhere found
  · rcases List.mem_or_eq_of_mem_set found with before | rfl
    · exact orderly.held release before running reference known
    · exact orderly.held _ (List.mem_of_getElem? there) unended reference known
  · rw [List.length_set]
    rw [moved] at found
    split at found
    next here =>
      obtain rfl : through = none := congrArg Release.through (Option.some.inj found)
      obtain ⟨gone, count, _⟩ := orderly.last number phase there
      exact ⟨gone, here ▸ count, fun leads => first other leads ⟨rfl, here⟩⟩
    next elsewhere =>
      obtain ⟨gone, count, early⟩ := orderly.last other stage found
      exact ⟨gone, count, fun leads => early (follows other leads elsewhere)⟩
  · obtain ⟨release, found, through⟩ := orderly.dropped gone
    obtain ⟨other, place⟩ := List.getElem?_of_mem found
    by_cases here : other = number
    · subst here
      obtain rfl : release = _ := Option.some.inj (place.symm.trans there)
      exact ⟨_, List.mem_of_getElem? (moved other |>.trans (if_pos rfl)), through⟩
    · exact ⟨release, List.mem_of_getElem? ((moved other).trans ((if_neg here).trans place)),
        through⟩

/-- Before the first look, a release that no reference was used for stands alone. -/
theorem number_eq_zero (unlooked : state.looked = []) {phase : ReleasePhase}
    (there : state.releases[number]? = some ⟨none, phase⟩) : number = 0 := by
  obtain ⟨gone, count, _⟩ := orderly.last number phase there
  by_contra later
  obtain ⟨first, found⟩ : ∃ first, state.releases[0]? = some first :=
    ⟨_, List.getElem?_eq_getElem (by omega)⟩
  have through : first.through ≠ none := by
    intro none
    obtain ⟨through, stage⟩ := first
    obtain rfl : through = Option.none := none
    have := (orderly.last 0 stage found).2.1
    omega
  have ended := orderly.isEnded_of_none gone (List.mem_of_getElem? found) through
  have placed := orderly.placed 0 first found
  obtain ⟨_, phase⟩ := first
  cases phase with
  | ended result => exact absurd placed.1 (unlooked ▸ List.not_mem_nil)
  | asked => cases ended
  | removing => cases ended

/-- The first release to look sets the mark and has the file to remove. -/
theorem look_first (there : state.releases[number]? = some ⟨through, .asked⟩)
    (unmarked : state.temporary.isReleased = false) : Orderly path (state.goOn number) := by
  have unlooked : state.looked = [] := by
    by_contra looked
    rw [orderly.marked.mpr looked] at unmarked
    cases unmarked
  have untried : state.attempts = [] := by
    simpa [unlooked] using orderly.attempted
  rw [goOn_asked there, unmarked]
  simp only [Bool.false_eq_true, ↓reduceIte, unlooked, untried, List.nil_append]
  refine orderly.move there rfl state.files orderly.path (by simp) (by simp) (.inl rfl)
    ⟨rfl, rfl⟩ (fun other release elsewhere found => ?_) (fun other _ last => ?_)
    (fun other leads elsewhere => absurd (Option.some.inj leads).symm elsewhere)
  · have placed := orderly.placed other release found
    rw [unlooked] at placed
    obtain ⟨_, phase⟩ := release
    cases phase with
    | asked => simpa [Placed] using elsewhere
    | removing => exact nomatch placed.1
    | ended result => exact absurd placed.1 List.not_mem_nil
  · obtain ⟨rfl, rfl⟩ := last
    exact orderly.number_eq_zero unlooked there

/-- Releases that look later find the mark and are over. -/
theorem look_later (there : state.releases[number]? = some ⟨through, .asked⟩)
    (marked : state.temporary.isReleased = true) : Orderly path (state.goOn number) := by
  have looked := orderly.marked.mp marked
  have leads : (state.looked ++ [number]).head? = state.looked.head? :=
    List.head?_append_of_ne_nil _ looked
  have unlooked : number ∉ state.looked := orderly.placed number _ there
  have other : state.looked.head? ≠ some number := fun first =>
    unlooked (List.mem_of_mem_head? first)
  rw [goOn_asked there, marked]
  simp only [↓reduceIte]
  refine orderly.move there rfl state.files orderly.path (by simp) (by simp [or_comm])
    (leads ▸ orderly.attempted) ⟨by simp, .inr ⟨leads ▸ other, rfl⟩⟩
    (fun place release elsewhere found => ?_) (fun place first last => ?_)
    (fun place first _ => leads ▸ first)
  · have placed := orderly.placed place release found
    obtain ⟨_, phase⟩ := release
    cases phase with
    | asked => simpa [Placed, elsewhere] using placed
    | removing => exact ⟨leads ▸ placed.1, placed.2⟩
    | ended result => exact ⟨List.mem_append_left _ placed.1, leads ▸ placed.2⟩
  · exact absurd (leads ▸ first) (last.2 ▸ other)

/-- The release that looked first makes the one attempt. -/
theorem attempt (there : state.releases[number]? = some ⟨through, .removing⟩) :
    Orderly path (state.goOn number) := by
  obtain ⟨leads, untried⟩ := orderly.placed number _ there
  rw [goOn_removing there]
  refine orderly.move there rfl _ orderly.path orderly.marked (fun _ => .inr) ?_
    ⟨List.mem_of_mem_head? leads, .inl ⟨leads, by simp [untried]⟩⟩
    (fun place release elsewhere found => ?_) (fun place _ last => ?_) (fun place first _ => first)
  · exact .inr (by simp [untried, leads])
  · have other : state.looked.head? ≠ some place := fun first =>
      elsewhere (Option.some.inj (first.symm.trans leads))
    have placed := orderly.placed place release found
    obtain ⟨_, phase⟩ := release
    cases phase with
    | asked => exact placed
    | removing => exact absurd placed.1 other
    | ended result =>
      rcases placed.2 with ⟨first, _⟩ | spared
      · exact absurd first other
      · exact ⟨placed.1, .inr spared⟩
  · obtain ⟨rfl, rfl⟩ := last
    exact (orderly.last place _ there).2.2 leads

theorem goOn (number : Nat) : Orderly path (state.goOn number) := by
  cases found : state.releases[number]? with
  | none => simpa only [Sharing.goOn, found] using orderly
  | some release =>
    obtain ⟨through, phase⟩ := release
    cases phase with
    | asked =>
      cases marked : state.temporary.isReleased with
      | false => exact orderly.look_first found marked
      | true => exact orderly.look_later found marked
    | removing => exact orderly.attempt found
    | ended result =>
      rw [goOn_ended found]
      exact orderly

/-- Every step of those who share a file keeps what holds of it, and so does whatever changes files. -/
theorem step {next : Sharing} (step : SharingStep state next) : Orderly path next := by
  cases step with
  | change files => exact orderly.change files
  | clone reference copy alive => exact orderly.clone alive
  | ask reference alive => exact orderly.ask alive
  | goOn number => exact orderly.goOn number
  | drop reference alive unused => exact orderly.drop alive unused

end Orderly

/-- A shared file is removed in one attempt. The promises say who makes it and when it has been
made, that no other release removes what stands at the path by then, and that a release which
nothing interrupts does what `release` does. -/
structure RemovedOnce (path : String) (state : Sharing) : Prop where
  path_eq : state.temporary.path = path
  attempts_length : state.attempts.length ≤ 1
  /-- A release looks once, and finds the mark if another looked before. -/
  looks : ∀ number through, state.releases[number]? = some ⟨through, .asked⟩ →
    number ∉ state.looked ∧ (state.goOn number).looked = state.looked ++ [number] ∧
      (state.temporary.isReleased = true ↔ state.looked ≠ [])
  /-- The attempt is made by the release that looked first. -/
  attempts_head? : ∀ number ∈ state.attempts, state.looked.head? = some number
  goOn_first : ∀ number, state.looked.head? = some number →
    (state.goOn number).attempts = [number] ∧
      (state.attempts = [] →
        (state.goOn number).files = (state.files.removeIfExists path).1)
  /-- Whoever drops the last reference makes it if no release was asked for through any. -/
  attempt_dropped : ∀ number phase, state.releases[number]? = some ⟨none, phase⟩ →
    (number ∈ state.attempts → state.releases.length = 1) ∧
      (state.releases.length = 1 → phase.isEnded = true → state.attempts = [number])
  /-- The last drop releases the file at once, and nothing else does. -/
  dropped_iff : state.references = ∅ ↔ ∃ release ∈ state.releases, release.through = none
  removed_unique : ∀ (first second : Nat) (one other : Option Nat),
    state.releases[first]? = some ⟨one, .ended (.ok true)⟩ →
    state.releases[second]? = some ⟨other, .ended (.ok true)⟩ → first = second
  /-- Whatever stands at the path of a released file, no other release removes it. -/
  spared : state.temporary.isReleased = true → ∀ number, state.looked.head? ≠ some number →
    (state.goOn number).files = state.files
  spared_after : state.attempts ≠ [] → ∀ number, (state.goOn number).files = state.files
  /-- Every release comes to its end, and does what `release` does if nothing interrupts it. -/
  ends : ∀ number, number < state.releases.length →
    ∃ through result, ((state.goOn number).goOn number).releases[number]? =
      some ⟨through, .ended result⟩
  alone : ∀ number through, state.releases[number]? = some ⟨through, .asked⟩ →
    ∃ result, ((state.goOn number).goOn number).releases[number]? =
        some ⟨through, .ended result⟩ ∧
      state.temporary.release state.files =
        (((state.goOn number).goOn number).temporary, ((state.goOn number).goOn number).files,
          result)
  /-- When nobody refers to the file any more, the attempt was made. -/
  attempted : state.references = ∅ → (∀ release ∈ state.releases, release.phase.isEnded = true) →
    ∃ number, state.attempts = [number]

namespace Orderly

variable (orderly : Orderly path state)

include orderly

/-- A release that is over has looked, and so has one that removes the file. -/
theorem mem_looked_of_ended {release : Release} (there : state.releases[number]? = some release)
    (ended : release.phase.isEnded = true) : number ∈ state.looked := by
  have placed := orderly.placed number release there
  obtain ⟨_, phase⟩ := release
  cases phase with
  | ended result => exact placed.1
  | asked => cases ended
  | removing => cases ended

/-- The first release to look has made the attempt when it is over. -/
theorem attempts_of_ended {release : Release} (there : state.releases[number]? = some release)
    (ended : release.phase.isEnded = true) (leads : state.looked.head? = some number) :
    state.attempts = [number] := by
  have placed := orderly.placed number release there
  obtain ⟨_, phase⟩ := release
  cases phase with
  | ended result => exact (placed.2.resolve_right fun spared => spared.1 leads).2
  | asked => cases ended
  | removing => cases ended

theorem attempts_head? (made : number ∈ state.attempts) : state.looked.head? = some number := by
  rcases orderly.attempted with none | some
  · rw [none] at made
    cases made
  · rw [some] at made
    exact Option.mem_toList.mp made

theorem goOn_first (leads : state.looked.head? = some number) :
    (state.goOn number).attempts = [number] ∧
      (state.attempts = [] →
        (state.goOn number).files = (state.files.removeIfExists path).1) := by
  have looked := List.mem_of_mem_head? leads
  obtain ⟨release, there⟩ : ∃ release, state.releases[number]? = some release :=
    ⟨_, List.getElem?_eq_getElem (orderly.listed number looked)⟩
  have placed := orderly.placed number release there
  obtain ⟨through, phase⟩ := release
  cases phase with
  | asked => exact absurd looked placed
  | removing =>
    rw [goOn_removing there]
    exact ⟨by simp [placed.2], fun _ => by rw [orderly.path]⟩
  | ended result =>
    rw [goOn_ended there]
    have made := orderly.attempts_of_ended there rfl leads
    exact ⟨made, fun untried => by simp [made] at untried⟩

/-- Only the removal changes any file. -/
theorem files_goOn (number : Nat) :
    (state.goOn number).files = state.files ∨
      (state.looked.head? = some number ∧ state.attempts = []) := by
  cases found : state.releases[number]? with
  | none => exact .inl (by simp only [Sharing.goOn, found])
  | some release =>
    have placed := orderly.placed number release found
    obtain ⟨through, phase⟩ := release
    cases phase with
    | asked => exact .inl (by rw [goOn_asked found])
    | removing => exact .inr placed
    | ended result => exact .inl (by rw [goOn_ended found])

theorem attempt_dropped {phase : ReleasePhase}
    (there : state.releases[number]? = some ⟨none, phase⟩) :
    (number ∈ state.attempts → state.releases.length = 1) ∧
      (state.releases.length = 1 → phase.isEnded = true → state.attempts = [number]) := by
  obtain ⟨_, count, early⟩ := orderly.last number phase there
  refine ⟨fun made => ?_, fun alone ended => ?_⟩
  · have := early (orderly.attempts_head? made)
    omega
  · have looked := orderly.mem_looked_of_ended there ended
    refine orderly.attempts_of_ended there ended ?_
    obtain ⟨first, leads⟩ := Option.isSome_iff_exists.mp
      (List.isSome_head?.mpr (List.ne_nil_of_mem looked))
    have := orderly.listed first (List.mem_of_mem_head? leads)
    rwa [show first = number by omega] at leads

theorem removed_unique {one : Option Nat}
    (there : state.releases[number]? = some ⟨one, .ended (.ok true)⟩) :
    state.looked.head? = some number :=
  ((orderly.placed number _ there).2.resolve_right (by simp)).1

theorem attempted_of_empty (gone : state.references = ∅)
    (ended : ∀ release ∈ state.releases, release.phase.isEnded = true) :
    ∃ number, state.attempts = [number] := by
  obtain ⟨release, listed, _⟩ := orderly.dropped gone
  obtain ⟨number, there⟩ := List.getElem?_of_mem listed
  have looked := orderly.mem_looked_of_ended there (ended release listed)
  cases leads : state.looked.head? with
  | none => exact absurd looked (List.head?_eq_none_iff.mp leads ▸ List.not_mem_nil)
  | some first =>
    have inside := orderly.listed first (List.mem_of_mem_head? leads)
    exact ⟨first, orderly.attempts_of_ended (List.getElem?_eq_getElem inside)
      (ended _ (List.getElem_mem inside)) leads⟩

end Orderly

/-- Whatever those who share a file of passing use do, and whatever happens at its path meanwhile,
the file is removed in one attempt. The file was just tracked and has one reference. The invariant
says where each release stands, by who looked at the mark and in which order: the first to look
makes the attempt, and nobody else does. -/
theorem removedOnce_of_run {files : Files} {reference : Nat}
    (run : Relation.ReflTransGen SharingStep (tracked path files reference) state) :
    RemovedOnce path state := by
  have orderly : Orderly path state := by
    induction run with
    | refl => exact orderly_tracked files reference
    | tail _ step inductionHypothesis => exact inductionHypothesis.step step
  refine
    { path_eq := orderly.path
      attempts_length := ?_
      looks := fun number through there =>
        ⟨orderly.placed number _ there, by rw [goOn_asked there], orderly.marked⟩
      attempts_head? := fun number made => orderly.attempts_head? made
      goOn_first := fun number leads => orderly.goOn_first leads
      attempt_dropped := fun number phase there => orderly.attempt_dropped there
      dropped_iff := ⟨orderly.dropped, fun dropped => ?_⟩
      removed_unique := fun first second one other removed again => ?_
      spared := fun _ number later => ?_
      spared_after := fun made number => ?_
      ends := fun number inside => exists_ended inside
      alone := fun number through there => goOn_uninterrupted there
      attempted := orderly.attempted_of_empty }
  · rcases orderly.attempted with none | some
    · simp [none]
    · rw [some]
      cases state.looked.head? <;> simp
  · obtain ⟨⟨_, phase⟩, listed, rfl⟩ := dropped
    obtain ⟨number, there⟩ := List.getElem?_of_mem listed
    exact (orderly.last number phase there).1
  · exact Option.some.inj ((orderly.removed_unique removed).symm.trans
      (orderly.removed_unique again))
  · exact (orderly.files_goOn number).resolve_right fun removes => later removes.1
  · exact (orderly.files_goOn number).resolve_right fun removes => made removes.2

/-- A file is released through one of two references, and another file is made at its path. Neither a
release through the other reference nor the last drop removes that one. -/
theorem removedOnce_of_run_remade :
    ∃ state, Relation.ReflTransGen SharingStep
        (tracked "/a" ⟨[(["a"], .file [1] 0)], 0⟩ 0) state ∧
      state.files.node? ["a"] = some (.file [2] 0) ∧ state.references = ∅ ∧
      state.attempts = [0] ∧ state.releases.length = 3 ∧ RemovedOnce "/a" state := by
  have run : Relation.ReflTransGen SharingStep
      (tracked "/a" ⟨[(["a"], .file [1] 0)], 0⟩ 0) _ :=
    .head (.clone _ 0 1 (by decide) (by decide)) <| .head (.ask _ 0 (by decide)) <|
    .head (.goOn _ 0) <| .head (.goOn _ 0) <|
    .head (.change _ ⟨[(["a"], .file [2] 0)], 0⟩) <| .head (.ask _ 1 (by decide)) <|
    .head (.goOn _ 1) <| .head (.drop _ 0 (by decide) (by decide)) <|
    .head (.drop _ 1 (by decide) (by decide)) <| .single (.goOn _ 2)
  exact ⟨_, run, rfl, by decide, rfl, rfl, removedOnce_of_run run⟩

end Sharing

end TemporaryFile

end Hotload
