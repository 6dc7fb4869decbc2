import Hotload.Proofs.FailedCompiles
import Hotload.Proofs.FreshUnits

/-!
# Views of resolvers

A view is a part of what a resolver keeps, such as its busy threads or the failure that it remembers.
A step changes a view of one resolver in a known way, and most steps leave it alone. That the host
may let go of the resolver is no exception: then there is nothing to be seen. The laws of single steps
here hold of every view; they compose along calls and along runs.
-/

namespace Hotload

namespace Session

variable {Shown : Type} {view : Resolver → Shown} {change next : Shown → Shown}
variable {session before after : Session} {id : Nat}

/-- What is left of a resolver after a step shows what it showed, changed in the given way. The step
gives no number again, and it tracks only files of passing use that have one. -/
structure ChangesView (view : Resolver → Shown) (change : Shown → Shown) (id : Nat)
    (before after : Session) : Prop where
  fresh : before.fresh ≤ after.fresh
  tracks : TracksGiven before after
  resolver : id < before.fresh → ∀ later, after.resolvers.get? id = some later →
    ∃ earlier, before.resolvers.get? id = some earlier ∧ view later = change (view earlier)

/-- A step that leaves the view alone. -/
abbrev KeepsView (view : Resolver → Shown) (id : Nat) : Session → Session → Prop :=
  ChangesView view (fun shown => shown) id

/-- One step after the other. -/
theorem ChangesView.trans {first second third : Session} (left : ChangesView view change id first second)
    (right : ChangesView view next id second third) :
    ChangesView view (fun shown => next (change shown)) id first third where
  fresh := Nat.le_trans left.fresh right.fresh
  tracks other tracked :=
    (right.tracks other tracked).elim
      (fun middle => (left.tracks other middle).imp_right fun given =>
        Nat.lt_of_lt_of_le given right.fresh)
      .inr
  resolver given later present := by
    obtain ⟨middle, there, shows⟩ :=
      right.resolver (Nat.lt_of_lt_of_le given left.fresh) later present
    obtain ⟨earlier, early, showed⟩ := left.resolver given middle there
    exact ⟨earlier, early, shows.trans (congrArg next showed)⟩

/-- The change may be told in other words. -/
theorem ChangesView.congr (changes : ChangesView view change id before after)
    (same : ∀ shown, change shown = next shown) : ChangesView view next id before after :=
  funext same ▸ changes

/-- A step that does not touch resolvers keeps every view of them. -/
theorem keepsView_of_resolvers (fresh : before.fresh ≤ after.fresh)
    (tracks : TracksGiven before after) (resolvers : after.resolvers = before.resolvers) :
    KeepsView view id before after :=
  ⟨fresh, tracks, fun _ later present => ⟨later, resolvers ▸ present, rfl⟩⟩

/-- A step that touches neither resolvers nor files of passing use. -/
theorem keepsView_of_rest (fresh : before.fresh ≤ after.fresh)
    (temporaries : after.temporaries = before.temporaries)
    (resolvers : after.resolvers = before.resolvers) : KeepsView view id before after :=
  keepsView_of_resolvers fresh (fun _ tracked => .inl (temporaries ▸ tracked)) resolvers

theorem KeepsView.refl (session : Session) : KeepsView view id session session :=
  keepsView_of_rest (Nat.le_refl _) rfl rfl

theorem log_keepsView (session : Session) (events : List Event) :
    KeepsView view id session (session.log events) :=
  keepsView_of_rest (Nat.le_refl _) rfl rfl

/-- A change of a resolver changes its view, and leaves the views of all others alone. -/
theorem updateResolver_changesView (session : Session) (other : Nat)
    {update : Resolver → Resolver} (shows : ∀ resolver, view (update resolver) = change (view resolver)) :
    ChangesView view (fun shown => if id = other then change shown else shown) id session
      (session.updateResolver other update) where
  fresh := Nat.le_refl _
  tracks _ tracked := .inl tracked
  resolver _ later present := by
    have updated : (session.updateResolver other update).resolvers.get? id =
        if id = other then (session.resolvers.get? id).map update
        else session.resolvers.get? id := Table.get?_update ..
    rw [updated] at present
    split at present
    · next same =>
      obtain ⟨earlier, early, rfl⟩ := Option.map_eq_some_iff.mp present
      exact ⟨earlier, early, by rw [if_pos same, shows]⟩
    · next away => exact ⟨later, present, by rw [if_neg away]⟩

/-- A change of a resolver that a view does not see. -/
theorem updateResolver_keepsView (session : Session) (other : Nat) {update : Resolver → Resolver}
    (unseen : ∀ resolver, view (update resolver) = view resolver) :
    KeepsView view id session (session.updateResolver other update) :=
  (updateResolver_changesView session other unseen).congr fun _ => ite_self _

/-- Letting go leaves what remains as it was. -/
theorem settle_keepsView (session : Session) : KeepsView view id session session.settle where
  fresh := settle_fresh session
  tracks other tracked := by
    obtain ⟨entry, listed, rfl⟩ := List.mem_map.mp (Table.has_iff.mp tracked)
    exact .inl (Table.has_iff.mpr (List.mem_map.mpr ⟨entry, settle_mem listed, rfl⟩))
  resolver _ later present := by
    rw [(settle_loaders session).2] at present
    exact ⟨later, session.keptLoaders_pruned.resolver_before present, rfl⟩

/-- Letting go after a step changes nothing of what the step left of a view. -/
theorem ChangesView.settle (changes : ChangesView view change id before after) :
    ChangesView view change id before after.settle :=
  changes.trans (settle_keepsView after)

theorem discard_keepsView (session : Session) (path : String) :
    KeepsView view id session (session.discard path) := by
  unfold discard
  split <;> exact keepsView_of_rest (Nat.le_refl _) rfl rfl

theorem release_keepsView (session : Session) (temporary : Nat) :
    KeepsView view id session (session.release temporary).1 := by
  refine keepsView_of_resolvers ?_ (fun other tracked => .inl ?_) ?_
  · rw [release_rest]
  · rwa [release_has] at tracked
  · rw [release_rest]

theorem dump_keepsView (session : Session) (archive : String) :
    KeepsView view id session (session.dump archive) := by
  unfold dump
  split <;> exact keepsView_of_rest (Nat.le_refl _) rfl rfl

theorem stage_keepsView (session : Session) (staging : Staging) (key : String)
    (extension : Option String) (create : Bool) :
    KeepsView view id session (session.stage staging key extension create).1 := by
  rw [stage_rest]
  exact keepsView_of_rest (Nat.le_succ _) rfl rfl

theorem track_keepsView (session : Session) (reaper : Nat) (path : String) :
    KeepsView view id session (session.track reaper path).1 :=
  keepsView_of_resolvers (Nat.le_succ _) (track_tracksGiven session reaper path) rfl

/-- That a compile left nothing behind shows in the memory of its resolver only. -/
theorem rejectEmpty_changesView (session : Session) (other : Nat) (resolver : Resolver)
    (archive output : String) (temporary : Option Nat)
    (shows : ∀ resolver : Resolver,
      view { resolver with hasFailed := true } = change (view resolver)) :
    ChangesView view (fun shown => if id = other then change shown else shown) id session
      (session.rejectEmpty other resolver archive output temporary) := by
  have failed : ChangesView view (fun shown => if id = other then change shown else shown) id session
      ((session.updateResolver other fun resolver => { resolver with hasFailed := true }).log
        [.emptyArtifact]) := by
    have updated : ChangesView view (fun shown => if id = other then change shown else shown) id
        session (session.updateResolver other fun resolver => { resolver with hasFailed := true }) :=
      updateResolver_changesView session other shows
    exact updated.trans (log_keepsView _ _)
  have dumped : ∀ noted : Session, KeepsView view id noted
      (if resolver.dumpsFailedInput then noted.dump archive else noted) := by
    intro noted
    split
    · exact dump_keepsView noted archive
    · exact .refl noted
  unfold rejectEmpty
  cases temporary with
  | some temporary => exact (failed.trans (dumped _)).trans (release_keepsView _ temporary)
  | none => exact (failed.trans (dumped _)).trans (discard_keepsView _ output)

section

variable (unregistered : ∀ (resolver : Resolver) registry,
  view { resolver with registry } = view resolver)
include unregistered

/-- A new unit shows in the registry only. -/
theorem enlist_keepsView (session : Session) (other : Nat) (unit : LoadedUnit) :
    KeepsView view id session (session.enlist other unit).1 := by
  have added : KeepsView view id session (session.addUnit unit).1 :=
    keepsView_of_rest (Nat.le_succ _) rfl rfl
  have listed : KeepsView view id session (session.enlisted other unit) :=
    added.trans (updateResolver_keepsView _ other fun _ => unregistered _ _)
  rw [enlist_eq]
  exact listed.settle

/-- A registration shows in the registry only, whether it succeeds or not. -/
theorem register_keepsView (session : Session) (other : Nat) (name artifact : String)
    (temporary : Option Nat) :
    KeepsView view id session (session.register other name artifact temporary).1 := by
  rcases session.register_cases other name artifact temporary with
    ⟨error, failed⟩ | ⟨resolver, size, content, _, _, _, succeeded⟩
  · rw [failed]
    exact .refl session
  · rw [succeeded]
    exact enlist_keepsView unregistered session other _

end

section

variable (unmarked : ∀ (resolver : Resolver) busy, view { resolver with busy } = view resolver)
include unmarked

/-- Marks of threads show in the busy threads only. -/
theorem markBusy_keepsView (session : Session) (other : Nat) (thread : Thread) :
    KeepsView view id session (session.markBusy other thread) :=
  updateResolver_keepsView session other fun _ => unmarked _ _

theorem unmarkBusy_keepsView (session : Session) (other : Nat) (thread : Thread) :
    KeepsView view id session (session.unmarkBusy other thread) :=
  updateResolver_keepsView session other fun _ => unmarked _ _

/-- Marks that are given up as time passes show in the busy threads only. -/
theorem pass_keepsView (session : Session) (time : Nat) :
    KeepsView view id session (session.pass time) :=
  session.pass_keeps time (fun _ _ => keepsView_of_rest (Nat.le_refl _) rfl rfl)
    fun later _ _ keeps => keeps.trans (unmarkBusy_keepsView unmarked later _ _)

/-- A wait shows in the busy threads only. -/
theorem wait_keepsView (session : Session) (other : Nat) (thread : Option Thread) :
    KeepsView view id session (session.wait other thread).1 :=
  wait_keeps (KeepsView.refl session) other thread
    (fun later _ keeps => keeps.trans (pass_keepsView unmarked later _))
    fun later _ keeps => keeps.trans (log_keepsView later _)

end

section

variable (unlearnt : ∀ (resolver : Resolver) defined,
  view { resolver with defined } = view resolver)
include unlearnt

/-- Look-ups show in the symbols that were learnt only. -/
theorem keepsView_follows : Follows (KeepsView view id) where
  refl := .refl
  trans := .trans
  log := log_keepsView
  makeSymbol _ _ _ _ _ := keepsView_of_rest (Nat.le_succ _) rfl rfl
  remember session other name symbol := by
    unfold remember
    split
    · exact .refl session
    · split
      · exact .refl session
      · exact updateResolver_keepsView session other fun _ => unlearnt _ _

theorem readBack_keepsView (session : Session) (unit : Nat) (name : String) :
    KeepsView view id session (session.readBack unit name).1 := by
  have asked : KeepsView view id session (session.find (.unit unit) name).1 :=
    (keepsView_follows unlearnt).find session (.unit unit) name
  unfold readBack
  split
  all_goals
    next heard =>
      rw [heard] at asked
      exact asked

end

end Session

end Hotload
