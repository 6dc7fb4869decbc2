import Hotload.Proofs.CacheContents

/-!
# Keeping the cache directory

A resolver that was opened without another resolver as its parent has its directory to itself. A
ledger says what it has to account for: from which number on files of passing use were made after
the directory was last emptied, and which lasting artifacts were compiled since. `Tended` is the
invariant that ties the directory to the ledger, also in the middle of an operation, when further
paths are in use and the newest file of passing use is not written yet.

The lemmas here say what the single steps of operations keep of it, up to letting go.
-/

namespace Hotload

open Files

/-- A resolver and the directory that it has to itself. -/
structure Tenancy where
  home : Home
  id : Nat
  /-- The name under which the host holds the resolver. -/
  holder : String
  /-- The resolver as it was opened. -/
  resolver : Resolver
  /-- The first number given after it was opened. -/
  opened : Nat
  layout : resolver.layout = home.layout
  direct : Session.Direct home resolver

/-- What a resolver has to account for. -/
structure Ledger where
  /-- The first number given after the directory was emptied. -/
  since : Nat
  /-- The artifacts compiled for good after that. -/
  compiled : List String

namespace Session

/-- A file of passing use that was made after the directory was emptied, and not released. -/
structure Counts (ledger : Ledger) (temporaries : Table TemporaryFile) (id : Nat)
    (temporary : TemporaryFile) : Prop where
  present : temporaries.get? id = some temporary
  since : ledger.since ≤ id
  unreleased : temporary.isReleased = false

/-- The paths that have a claim: those in use, those of compiled artifacts, and those of files of
passing use. -/
def claims (ledger : Ledger) (busy : List String) (temporaries : Table TemporaryFile)
    (path : String) : Prop :=
  path ∈ busy ∨ path ∈ ledger.compiled ∨
    ∃ id temporary, Counts ledger temporaries id temporary ∧ temporary.path = path

/-- A path through which nothing is changed that the ledger accounts for, the pending file of
passing use apart. -/
structure Clear (ledger : Ledger) (pending : Option Nat) (temporaries : Table TemporaryFile)
    (files : Files) (path : String) : Prop where
  temporaries : ∀ id temporary, Counts ledger temporaries id temporary → some id ≠ pending →
    Apart files path temporary.path
  compiled : ∀ output ∈ ledger.compiled, Apart files path output

/-- The directory holds what the ledger accounts for, and what is in use. -/
structure Tended (tenancy : Tenancy) (ledger : Ledger) (busy : List String) (pending : Option Nat)
    (session : Session) : Prop where
  proper : tenancy.home.Proper
  wired : Wired session
  held : (tenancy.holder, .loader (.resolver tenancy.id)) ∈ session.held
  opened : ∃ now, session.resolvers.get? tenancy.id = some now ∧
    now.staging = tenancy.resolver.staging ∧ now.platform = tenancy.resolver.platform
  filled : Filled tenancy.home session.files (claims ledger busy session.temporaries)
  drawn : ∀ id temporary, session.temporaries.get? id = some temporary → id < session.fresh
  own : ∀ id temporary, session.temporaries.get? id = some temporary → tenancy.opened ≤ id →
    ∃ number, id = number + 1 ∧ StagedAs tenancy.resolver number temporary.path
  foreign : ∀ id temporary, session.temporaries.get? id = some temporary → id < tenancy.opened →
    temporary.isReleased = false → Aloof tenancy.home session.files temporary.path
  remain : ∀ id temporary, Counts ledger session.temporaries id temporary → some id ≠ pending →
    Remains session.files temporary.path
  stand : ∀ output ∈ ledger.compiled,
    ∃ artifact, Stands tenancy.resolver session.files output artifact
  known : ∀ id, tenancy.opened ≤ id → .temporary id ∈ session.targets →
    (session.temporaries.get? id).isSome
  since : tenancy.opened ≤ ledger.since ∧ ledger.since ≤ session.fresh
  storable : ∀ path ∈ busy, Storable tenancy.home path
  clear : ∀ path ∈ busy, Clear ledger none session.temporaries session.files path

variable {tenancy : Tenancy} {ledger : Ledger} {busy : List String} {pending : Option Nat}
  {session after : Session}

/-- Every file of passing use was one before, and none that was released is so no more. -/
def Fewer (temporaries fewer : Table TemporaryFile) : Prop :=
  ∀ id temporary, fewer.get? id = some temporary → ∃ before, temporaries.get? id = some before ∧
    before.path = temporary.path ∧ (temporary.isReleased = false → before.isReleased = false)

theorem Fewer.refl (temporaries : Table TemporaryFile) : Fewer temporaries temporaries :=
  fun _ temporary present => ⟨temporary, present, rfl, fun unreleased => unreleased⟩

/-- What counts later counted before. -/
theorem Fewer.counts {temporaries fewer : Table TemporaryFile} (subset : Fewer temporaries fewer)
    {id : Nat} {temporary : TemporaryFile} (counts : Counts ledger fewer id temporary) :
    ∃ before, Counts ledger temporaries id before ∧ before.path = temporary.path := by
  obtain ⟨before, present, path, unreleased⟩ := subset id temporary counts.present
  exact ⟨before, ⟨present, counts.since, unreleased counts.unreleased⟩, path⟩

/-- Whether a path is clear hangs on the skeleton and on the files of passing use. -/
theorem Clear.of_skeleton {temporaries fewer : Table TemporaryFile} {files other : Files}
    {path : String} (clear : Clear ledger pending temporaries files path)
    (same : SameSkeleton files other) (subset : Fewer temporaries fewer) :
    Clear ledger pending fewer other path where
  temporaries := by
    intro id temporary counts away
    obtain ⟨before, early, path_eq⟩ := subset.counts counts
    rw [← path_eq]
    exact (clear.temporaries id before early away).of_skeleton same
  compiled := fun output listed => (clear.compiled output listed).of_skeleton same

/-- Whether a file of passing use is referred to. -/
theorem temporary_mem_targets {id : Nat} :
    .temporary id ∈ session.targets ↔
      (∃ name, (name, .temporary id) ∈ session.held) ∨
        ∃ entry ∈ session.units, entry.2.temporary = some id := by
  simp only [targets, LoadedUnit.targets, Resolver.targets, List.mem_append, List.mem_map,
    List.mem_flatMap, Prod.exists, exists_eq_right, reduceCtorEq, and_false, exists_false,
    false_or, or_false, Target.temporary.injEq, Option.mem_toList]

namespace Tended

/-- A step that changes neither files nor files of passing use. -/
theorem relinked (tended : Tended tenancy ledger busy pending session) (wired : Wired after)
    (held : (tenancy.holder, .loader (.resolver tenancy.id)) ∈ after.held)
    (opened : ∃ now, after.resolvers.get? tenancy.id = some now ∧
      now.staging = tenancy.resolver.staging ∧ now.platform = tenancy.resolver.platform)
    (files : after.files = session.files) (temporaries : after.temporaries = session.temporaries)
    (fresh : session.fresh ≤ after.fresh)
    (known : ∀ id, .temporary id ∈ after.targets → .temporary id ∈ session.targets ∨
      (session.temporaries.get? id).isSome) : Tended tenancy ledger busy pending after where
  proper := tended.proper
  wired := wired
  held := held
  opened := opened
  filled := by
    rw [files, temporaries]
    exact tended.filled
  drawn := fun id temporary present =>
    Nat.lt_of_lt_of_le (tended.drawn id temporary (temporaries ▸ present)) fresh
  own := temporaries ▸ tended.own
  foreign := by
    rw [files, temporaries]
    exact tended.foreign
  remain := by
    rw [files, temporaries]
    exact tended.remain
  stand := files ▸ tended.stand
  known := by
    intro id late referred
    rw [temporaries]
    rcases known id referred with before | present
    · exact tended.known id late before
    · exact present
  since := ⟨tended.since.1, Nat.le_trans tended.since.2 fresh⟩
  storable := tended.storable
  clear := by
    rw [files, temporaries]
    exact tended.clear

/-- A step that keeps the links and changes no files. -/
theorem keeps (tended : Tended tenancy ledger busy pending session)
    (kept : KeepsLinks session after) (files : after.files = session.files)
    (temporaries : after.temporaries = session.temporaries) :
    Tended tenancy ledger busy pending after := by
  refine tended.relinked (tended.wired.keeps kept) ?_ ?_ files temporaries kept.fresh ?_
  · rw [show after.held = session.held from congrArg Links.held kept.links]
    exact tended.held
  · obtain ⟨now, there, staging, platform⟩ := tended.opened
    obtain ⟨later, stands, laterStaging, laterPlatform⟩ :=
      opened_of_links (kept.resolver tenancy.id) now there
    exact ⟨later, stands, laterStaging.trans staging, laterPlatform.trans platform⟩
  · intro id referred
    rw [kept.targets] at referred
    exact .inl referred

/-- A change of the tree and of the files of passing use after which no more stands in the directory
than what has a claim. -/
theorem changed (tended : Tended tenancy ledger busy pending session) {files : Files}
    {temporaries : Table TemporaryFile} {fewer : List String} (inUse : fewer ⊆ busy)
    (subset : Fewer session.temporaries temporaries) (skeleton : SameSkeleton session.files files)
    (filled : Filled tenancy.home files (claims ledger fewer temporaries))
    (remain : ∀ id temporary, Counts ledger temporaries id temporary → some id ≠ pending →
      Remains files temporary.path)
    (shown : ∀ output ∈ ledger.compiled, files.shown? output = session.files.shown? output)
    (known : ∀ id, .temporary id ∈ session.targets → (session.temporaries.get? id).isSome →
      (temporaries.get? id).isSome) :
    Tended tenancy ledger fewer pending { session with files, temporaries } where
  proper := tended.proper
  wired := tended.wired.keeps ⟨rfl, Nat.le_refl _⟩
  held := tended.held
  opened := tended.opened
  filled := filled
  drawn := by
    intro id temporary present
    obtain ⟨before, early, _⟩ := subset id temporary present
    exact tended.drawn id before early
  own := by
    intro id temporary present late
    obtain ⟨before, early, path, _⟩ := subset id temporary present
    rw [← path]
    exact tended.own id before early late
  foreign := by
    intro id temporary present early unreleased
    obtain ⟨before, was, path, released⟩ := subset id temporary present
    rw [← path]
    exact (tended.foreign id before was early (released unreleased)).of_skeleton skeleton
  remain := remain
  stand := by
    intro output listed
    obtain ⟨artifact, stands⟩ := tended.stand output listed
    exact ⟨artifact, stands.of_shown (shown output listed)⟩
  known := fun id late referred => known id referred (tended.known id late referred)
  since := tended.since
  storable := fun path used => tended.storable path (inUse used)
  clear := fun path used => (tended.clear path (inUse used)).of_skeleton skeleton subset

/-- A change through a clear path that has a claim. -/
theorem touched (tended : Tended tenancy ledger busy pending session) {files : Files}
    {path : String} (claimed : claims ledger busy session.temporaries path)
    (clear : Clear ledger pending session.temporaries session.files path) (touches : Touches path session.files files) :
    Tended tenancy ledger busy pending { session with files } := by
  refine tended.changed (List.Subset.refl busy) (Fewer.refl _) touches.skeleton
    (tended.filled.touched claimed touches) ?_ ?_ fun _ _ present => present
  · intro id temporary counts away
    exact (tended.remain id temporary counts away).touched touches
      (clear.temporaries id temporary counts away)
  · exact fun output listed => touches.status (clear.compiled output listed)

/-- A path comes into use. -/
theorem engage (tended : Tended tenancy ledger busy pending session) {path : String}
    (storable : Storable tenancy.home path) (clear : Clear ledger none session.temporaries session.files path) :
    Tended tenancy ledger (path :: busy) pending session :=
  { tended with
    filled := by
      refine tended.filled.mono ?_
      rintro other (inUse | claimed)
      · exact .inl (List.mem_cons_of_mem _ inUse)
      · exact .inr claimed
    storable := by
      intro other inUse
      rcases List.mem_cons.mp inUse with rfl | inUse
      · exact storable
      · exact tended.storable other inUse
    clear := by
      intro other inUse
      rcases List.mem_cons.mp inUse with rfl | inUse
      · exact clear
      · exact tended.clear other inUse }

/-- A path is in use no more when everything at it was removed. -/
theorem dismiss {path : String} (tended : Tended tenancy ledger (path :: busy) pending session) :
    Tended tenancy ledger busy pending
      { session with files := (session.files.removeIfExists path).1 } := by
  have storable := tended.storable path List.mem_cons_self
  have clear := tended.clear path List.mem_cons_self
  have touches := removeIfExists_touches (storable session.files tended.filled.housed).plain
  refine tended.changed (List.subset_cons_self path busy) (Fewer.refl _) touches.skeleton ?_ ?_ ?_
    fun _ _ present => present
  · refine Filled.removed storable (tended.filled.mono ?_)
    rintro other (inUse | claimed)
    · rcases List.mem_cons.mp inUse with rfl | inUse
      · exact .inr rfl
      · exact .inl (.inl inUse)
    · exact .inl (.inr claimed)
  · intro id temporary counts away
    exact (tended.remain id temporary counts away).touched touches
      (clear.temporaries id temporary counts fun impossible => by cases impossible)
  · exact fun output listed => touches.status (clear.compiled output listed)

/-- Discarding a path puts it out of use. -/
theorem discard {path : String} (tended : Tended tenancy ledger (path :: busy) pending session) :
    Tended tenancy ledger busy pending (session.discard path) := by
  have dismissed := tended.dismiss
  refine dismissed.keeps ⟨(discard_keepsLinks session path).links, ?_⟩
    (discard_files session path) (discard_temporaries session path)
  exact (discard_keepsLinks session path).fresh

/-! ## Files of passing use -/

/-- A file of passing use is made: a staged path is tracked, and the file is still to be written. -/
theorem track (tended : Tended tenancy ledger busy none session) {number : Nat} {path : String}
    (next : session.fresh = number + 1) (staged : StagedAs tenancy.resolver number path)
    (apart : ∀ other ∈ busy, Apart session.files other path) (reaper : Nat) :
    Tended tenancy ledger busy (some session.fresh) (session.track reaper path).1 := by
  have kept := track_keepsLinks session reaper path
  have added : ∀ id temporary, (session.track reaper path).1.temporaries.get? id = some temporary →
      session.temporaries.get? id = some temporary ∨
        id = session.fresh ∧ temporary = ⟨path, false⟩ := by
    intro id temporary present
    unfold Session.track at present
    dsimp only [Session.number] at present
    rw [Table.get?_add, Option.or_eq_some_iff] at present
    rcases present with early | ⟨_, new⟩
    · exact .inl early
    · split at new
      · next same => exact .inr ⟨same, (Option.some.inj new).symm⟩
      · cases new
  have still : ∀ id temporary, session.temporaries.get? id = some temporary →
      (session.track reaper path).1.temporaries.get? id = some temporary := by
    intro id temporary present
    unfold Session.track
    dsimp only [Session.number]
    rw [Table.get?_add, present, Option.some_or]
  obtain ⟨now, there, staging, platform⟩ := tended.opened
  exact
    { proper := tended.proper
      wired := tended.wired.keeps kept
      held := tended.held
      opened := ⟨now, there, staging, platform⟩
      filled := by
        refine tended.filled.mono ?_
        rintro other (inUse | compiled | ⟨id, temporary, counts, rfl⟩)
        · exact .inl inUse
        · exact .inr (.inl compiled)
        · exact .inr (.inr ⟨id, temporary,
            ⟨still id temporary counts.present, counts.since, counts.unreleased⟩, rfl⟩)
      drawn := by
        intro id temporary present
        rcases added id temporary present with early | ⟨rfl, rfl⟩
        · exact Nat.lt_succ_of_lt (tended.drawn id temporary early)
        · exact Nat.lt_succ_self _
      own := by
        intro id temporary present late
        rcases added id temporary present with early | ⟨rfl, rfl⟩
        · exact tended.own id temporary early late
        · exact ⟨number, next, staged⟩
      foreign := by
        intro id temporary present foreign unreleased
        rcases added id temporary present with early | ⟨rfl, rfl⟩
        · exact tended.foreign id temporary early foreign unreleased
        · have bounds := tended.since
          omega
      remain := by
        intro id temporary counts away
        rcases added id temporary counts.present with early | ⟨rfl, rfl⟩
        · exact tended.remain id temporary ⟨early, counts.since, counts.unreleased⟩
            fun impossible => by cases impossible
        · exact absurd rfl away
      stand := tended.stand
      known := by
        intro id late referred
        rw [kept.targets] at referred
        obtain ⟨temporary, present⟩ :=
          Option.isSome_iff_exists.mp (tended.known id late referred)
        rw [still id temporary present]
        rfl
      since := ⟨tended.since.1, Nat.le_succ_of_le tended.since.2⟩
      storable := tended.storable
      clear := by
        intro other inUse
        refine ⟨?_, (tended.clear other inUse).compiled⟩
        intro id temporary counts away
        rcases added id temporary counts.present with early | ⟨rfl, rfl⟩
        · exact (tended.clear other inUse).temporaries id temporary
            ⟨early, counts.since, counts.unreleased⟩ away
        · exact apart other inUse }

/-- The pending file of passing use is written. -/
theorem ready {id : Nat} (tended : Tended tenancy ledger busy (some id) session)
    (remains : ∀ temporary, session.temporaries.get? id = some temporary →
      Remains session.files temporary.path) : Tended tenancy ledger busy none session :=
  { tended with
    remain := by
      intro other temporary counts _
      by_cases same : other = id
      · subst same
        exact remains temporary counts.present
      · exact tended.remain other temporary counts (by simpa using same) }

/-- Removing what is at the path of a file of passing use changes nothing else that the ledger
accounts for. -/
theorem removes (tended : Tended tenancy ledger busy pending session) {id : Nat}
    {temporary : TemporaryFile} (present : session.temporaries.get? id = some temporary)
    (unreleased : temporary.isReleased = false) :
    Touches temporary.path session.files (session.files.removeIfExists temporary.path).1 ∧
      (∀ other another, Counts ledger session.temporaries other another → other ≠ id →
        Apart session.files temporary.path another.path) ∧
      (∀ output ∈ ledger.compiled, Apart session.files temporary.path output) := by
  have housed := tended.filled.housed
  have lasting : ∀ output ∈ ledger.compiled, ∃ text, output = durable tenancy.resolver text := by
    intro output listed
    obtain ⟨artifact, stands⟩ := tended.stand output listed
    exact stands.isDurable
  have counted : ∀ other another, Counts ledger session.temporaries other another →
      ∃ number, other = number + 1 ∧ StagedAs tenancy.resolver number another.path :=
    fun other another counts => tended.own other another counts.present
      (Nat.le_trans tended.since.1 counts.since)
  by_cases early : id < tenancy.opened
  · have aloof := tended.foreign id temporary present early unreleased
    refine ⟨removeIfExists_touches aloof.plain, ?_, ?_⟩
    · intro other another counts _
      obtain ⟨number, _, staged⟩ := counted other another counts
      exact aloof.apart_staged housed tenancy.layout staged
    · intro output listed
      obtain ⟨text, rfl⟩ := lasting output listed
      exact aloof.apart_durable housed tenancy.layout tenancy.direct text
  · obtain ⟨number, rfl, staged⟩ := tended.own id temporary present (Nat.le_of_not_lt early)
    have slot := staged.storable tenancy.layout session.files housed
    refine ⟨removeIfExists_touches slot.plain, ?_, ?_⟩
    · intro other another counts different
      obtain ⟨otherNumber, rfl, otherStaged⟩ := counted other another counts
      refine staged.apart tenancy.layout otherStaged ?_ housed
      rintro rfl
      exact different rfl
    · intro output listed
      obtain ⟨text, rfl⟩ := lasting output listed
      exact staged.apart_durable housed tenancy.layout tenancy.direct text

/-- A file of passing use that is removed has no claim any more. -/
theorem removed_filled (tended : Tended tenancy ledger busy pending session) {id : Nat}
    {temporary : TemporaryFile} (present : session.temporaries.get? id = some temporary)
    (unreleased : temporary.isReleased = false) {others : Table TemporaryFile}
    (still : ∀ other another, other ≠ id → session.temporaries.get? other = some another →
      others.get? other = some another) :
    Filled tenancy.home (session.files.removeIfExists temporary.path).1
      (claims ledger busy others) := by
  have covered : ∀ path, claims ledger busy session.temporaries path →
      claims ledger busy others path ∨ path = temporary.path := by
    rintro path (inUse | compiled | ⟨other, another, counts, rfl⟩)
    · exact .inl (.inl inUse)
    · exact .inl (.inr (.inl compiled))
    · by_cases same : other = id
      · subst same
        have one := counts.present
        rw [present] at one
        exact .inr (congrArg TemporaryFile.path (Option.some.inj one).symm)
      · exact .inl (.inr (.inr ⟨other, another,
          ⟨still other another same counts.present, counts.since, counts.unreleased⟩, rfl⟩))
  by_cases early : id < tenancy.opened
  · have aloof := tended.foreign id temporary present early unreleased
    refine (tended.filled.aloof aloof (removeIfExists_touches aloof.plain)).mono ?_
    rintro path (inUse | compiled | ⟨other, another, counts, rfl⟩)
    · exact .inl inUse
    · exact .inr (.inl compiled)
    · have late := Nat.le_trans tended.since.1 counts.since
      have away : other ≠ id := by omega
      exact .inr (.inr ⟨other, another,
        ⟨still other another away counts.present, counts.since, counts.unreleased⟩, rfl⟩)
  · obtain ⟨number, rfl, staged⟩ := tended.own id temporary present (Nat.le_of_not_lt early)
    exact Filled.removed (staged.storable tenancy.layout) (tended.filled.mono covered)

/-- Releasing a file of passing use removes it, and nothing else that the ledger accounts for. -/
theorem release (tended : Tended tenancy ledger busy pending session) (id : Nat) :
    Tended tenancy ledger busy pending (session.release id).1 := by
  unfold Session.release TemporaryFile.release
  cases present : session.temporaries.get? id with
  | none => exact tended
  | some temporary =>
    let spent : TemporaryFile := ⟨temporary.path, true⟩
    let marked := session.temporaries.update id fun _ => spent
    have here : marked.get? id = some spent := by
      rw [Table.get?_update, if_pos rfl, present, Option.map_some]
    have elsewhere : ∀ other, other ≠ id → marked.get? other = session.temporaries.get? other := by
      intro other away
      rw [Table.get?_update, if_neg away]
    have fewer : Fewer session.temporaries marked := by
      intro other another found
      by_cases same : other = id
      · subst same
        obtain rfl := Option.some.inj (here.symm.trans found)
        exact ⟨temporary, present, rfl, fun impossible => by cases impossible⟩
      · rw [elsewhere other same] at found
        exact Fewer.refl _ other another found
    have counted : ∀ other another, Counts ledger marked other another →
        other ≠ id ∧ Counts ledger session.temporaries other another := by
      intro other another counts
      have away : other ≠ id := by
        rintro rfl
        have unreleased := counts.unreleased
        rw [← Option.some.inj (here.symm.trans counts.present)] at unreleased
        cases unreleased
      exact ⟨away, elsewhere other away ▸ counts.present, counts.since, counts.unreleased⟩
    have known : ∀ other, .temporary other ∈ session.targets →
        (session.temporaries.get? other).isSome → (marked.get? other).isSome := by
      intro other _ found
      by_cases same : other = id
      · rw [same, here]
        rfl
      · rw [elsewhere other same]
        exact found
    cases unreleased : temporary.isReleased with
    | true =>
      have spent_eq : temporary = spent := by
        rw [show spent = ⟨temporary.path, true⟩ from rfl, ← unreleased]
      have filled : Filled tenancy.home session.files (claims ledger busy marked) := by
        refine tended.filled.mono ?_
        rintro path (inUse | compiled | ⟨other, another, counts, rfl⟩)
        · exact .inl inUse
        · exact .inr (.inl compiled)
        · refine .inr (.inr ⟨other, another, ⟨?_, counts.since, counts.unreleased⟩, rfl⟩)
          rw [elsewhere other ?_]
          · exact counts.present
          · rintro rfl
            have still := counts.unreleased
            rw [Option.some.inj (counts.present.symm.trans present), unreleased] at still
            cases still
      simp only [unreleased, ↓reduceIte]
      rw [spent_eq]
      exact tended.changed (List.Subset.refl busy) fewer (SameSkeleton.refl _) filled
        (fun other another counts => tended.remain other another (counted other another counts).2)
        (fun _ _ => rfl) known
    | false =>
      obtain ⟨touches, apart, lasting⟩ := tended.removes present unreleased
      have filled := tended.removed_filled present unreleased fun other another away found =>
        (elsewhere other away).trans found
      have changed := tended.changed (List.Subset.refl busy) fewer touches.skeleton filled
        (fun other another counts away =>
          (tended.remain other another (counted other another counts).2 away).touched touches
            (apart other another (counted other another counts).2 (counted other another counts).1))
        (fun output listed => touches.status (lasting output listed)) known
      simp only [unreleased, Bool.false_eq_true, ↓reduceIte]
      split
      · exact changed
      · exact changed.keeps ⟨rfl, Nat.le_refl _⟩ rfl rfl

end Tended

/-- A file that was released is so from then on. -/
theorem release_spent {id : Nat} {temporary : TemporaryFile}
    (present : (session.release id).1.temporaries.get? id = some temporary) :
    temporary.isReleased = true := by
  unfold Session.release TemporaryFile.release at present
  rcases found : session.temporaries.get? id with _ | was
  · rw [found] at present
    dsimp only at present
    rw [found] at present
    cases present
  · rw [found] at present
    dsimp only at present
    cases released : was.isReleased with
    | true =>
      rw [released] at present
      simp only [↓reduceIte, Table.get?_update, found, Option.map_some] at present
      rw [← Option.some.inj present, released]
    | false =>
      rw [released] at present
      simp only [Bool.false_eq_true, ↓reduceIte] at present
      split at present
      · simp only [Table.get?_update, ↓reduceIte, found, Option.map_some] at present
        rw [← Option.some.inj present]
      · simp only [log, Table.get?_update, ↓reduceIte, found, Option.map_some] at present
        rw [← Option.some.inj present]

namespace Tended

/-- A file of passing use that nothing refers to is let go of. -/
theorem dropTemporary (tended : Tended tenancy ledger busy pending session) {id : Nat}
    (dead : .temporary id ∉ session.targets) :
    Tended tenancy ledger busy pending (session.dropTemporary id) := by
  have released := tended.release id
  have targets := (release_keepsLinks session id).targets
  have kept : ∀ other, Table.get? ((session.release id).1.temporaries.filter
      fun entry => entry.1 ≠ id) other =
        if other = id then none else (session.release id).1.temporaries.get? other := by
    intro other
    have filtered := Table.get?_filter (session.release id).1.temporaries
      (fun entry => decide (entry ≠ id)) other
    rw [filtered]
    by_cases same : other = id <;> simp [same]
  refine released.changed (List.Subset.refl busy) ?_ (SameSkeleton.refl _) ?_ ?_ (fun _ _ => rfl) ?_
  · intro other temporary present
    rw [kept] at present
    split at present
    · cases present
    · exact Fewer.refl _ other temporary present
  · refine released.filled.mono ?_
    rintro path (inUse | compiled | ⟨other, another, counts, rfl⟩)
    · exact .inl inUse
    · exact .inr (.inl compiled)
    · refine .inr (.inr ⟨other, another, ⟨?_, counts.since, counts.unreleased⟩, rfl⟩)
      rw [kept, if_neg]
      · exact counts.present
      · rintro rfl
        have still := counts.unreleased
        rw [release_spent counts.present] at still
        cases still
  · intro other another counts away
    refine released.remain other another ⟨?_, counts.since, counts.unreleased⟩ away
    have present := counts.present
    rw [kept] at present
    split at present
    · cases present
    · exact present
  · intro other referred present
    rw [kept, if_neg]
    · exact present
    · rintro rfl
      rw [targets] at referred
      exact dead referred

end Tended

/-- Files that are let go of are gone, and no others. -/
theorem dropTemporaries_get? (session : Session) (dead : List Nat) (id : Nat) :
    (dead.foldl dropTemporary session).temporaries.get? id =
      if id ∈ dead then none else session.temporaries.get? id := by
  induction dead generalizing session with
  | nil => simp
  | cons first rest inductionHypothesis =>
    rw [List.foldl_cons, inductionHypothesis, dropTemporary_temporaries]
    have filtered := Table.get?_filter session.temporaries
      (fun entry => decide (entry ≠ first)) id
    rw [filtered]
    by_cases later : id ∈ rest
    · simp [later]
    · by_cases same : id = first <;> simp [later, same]

/-- Every file of passing use that is left after letting go is referred to. -/
theorem settle_referred {id : Nat} {temporary : TemporaryFile}
    (present : session.settle.temporaries.get? id = some temporary) :
    .temporary id ∈ session.settle.targets := by
  rw [session.settle_keepsLinks.targets]
  rw [settle_eq, dropTemporaries_get?] at present
  split at present
  · cases present
  · next alive =>
    refine Classical.byContradiction fun unreferred => ?_
    refine alive (List.mem_filter.mpr ⟨?_, ?_⟩)
    · exact List.mem_map.mpr ⟨(id, temporary), Table.mem_of_get? present, rfl⟩
    · simpa using unreferred

namespace Tended

/-- Letting go of loaders leaves the directory as it is. -/
theorem pruned (tended : Tended tenancy ledger busy pending session)
    (pruned : Pruned session after) : Tended tenancy ledger busy pending after := by
  have held : (tenancy.holder, .loader (.resolver tenancy.id)) ∈ after.held := by
    rw [pruned.rest]
    exact tended.held
  refine tended.relinked (tended.wired.pruned pruned) held ?_ ?_ ?_ ?_ ?_
  · obtain ⟨now, there, staging, platform⟩ := tended.opened
    exact ⟨now, (pruned.resolver (held_mem_targets held)).trans there, staging, platform⟩
  · rw [pruned.rest]
  · rw [pruned.rest]
  · exact Nat.le_of_eq (by rw [pruned.rest])
  · exact fun id referred => .inl (pruned.targets_subset referred)

/-- Letting go of files of passing use that nothing refers to. -/
theorem dropTemporaries (tended : Tended tenancy ledger busy pending session) {dead : List Nat}
    (unreferred : ∀ id ∈ dead, .temporary id ∉ session.targets) :
    Tended tenancy ledger busy pending (dead.foldl Session.dropTemporary session) := by
  induction dead generalizing session with
  | nil => exact tended
  | cons first rest inductionHypothesis =>
    have dropped := tended.dropTemporary (unreferred first List.mem_cons_self)
    refine inductionHypothesis dropped ?_
    intro id listed
    rw [(dropTemporary_keepsLinks session first).targets]
    exact unreferred id (List.mem_cons_of_mem _ listed)

/-- Letting go keeps the directory tended, and the pending file of passing use is let go of if
nothing refers to it. -/
theorem settle_pending (tended : Tended tenancy ledger busy pending session)
    (unreferred : ∀ id, pending = some id → .temporary id ∉ session.targets) :
    Tended tenancy ledger busy none session.settle := by
  have kept := tended.pruned session.keptLoaders_pruned
  have settled : Tended tenancy ledger busy pending session.settle := by
    rw [settle_eq]
    refine kept.dropTemporaries ?_
    intro id listed
    simpa using (List.mem_filter.mp listed).2
  cases pending with
  | none => exact settled
  | some id =>
    refine settled.ready ?_
    intro temporary present
    have referred := settle_referred present
    rw [session.settle_keepsLinks.targets] at referred
    exact absurd (session.keptLoaders_pruned.targets_subset referred) (unreferred id rfl)

/-- Letting go keeps the directory tended. -/
theorem settle (tended : Tended tenancy ledger busy none session) :
    Tended tenancy ledger busy none session.settle :=
  tended.settle_pending fun _ impossible => by cases impossible

end Tended

end Session

end Hotload
