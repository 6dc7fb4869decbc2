import Hotload.Session.Resolver

/-!
# Who refers to whom

The links of a session are the references in it: what units and resolvers refer to, by the field
that refers, and what the host holds. Most steps leave them as they are. Look-ups do, and so does
everything that only changes files, marks, or the record of what happened. Steps that change no
files either are quiet. The lemmas here say so step by step; what registers, unloads, opens or lets
go changes links and is described where it is needed.
-/

namespace Hotload

/-- The name of a unit and what it refers to. -/
structure UnitLinks where
  name : String
  parent : Option Loader
  temporary : Option Nat

/-- What a resolver refers to, and what it was opened with. -/
structure ResolverLinks where
  staging : Staging
  platform : Platform
  reaper : Nat
  parent : Option Loader
  localUnit : Option Loader
  registry : Registry Nat

/-- Every reference in a session. -/
structure Links where
  units : Table UnitLinks
  resolvers : Table ResolverLinks
  held : List (String × Target)

/-- The references of a unit. -/
def LoadedUnit.links (unit : LoadedUnit) : UnitLinks :=
  ⟨unit.name, unit.parent, unit.temporary⟩

/-- The references and the settings of a resolver. -/
def Resolver.links (resolver : Resolver) : ResolverLinks :=
  ⟨resolver.staging, resolver.platform, resolver.reaper, resolver.parent, resolver.localUnit,
    resolver.registry⟩

namespace Session

/-- The references in a session. -/
def links (session : Session) : Links where
  units := session.units.mapValues LoadedUnit.links
  resolvers := session.resolvers.mapValues Resolver.links
  held := session.held

/-- The second session has the references of the first, and no number is given again. -/
structure KeepsLinks (before after : Session) : Prop where
  links : after.links = before.links
  fresh : before.fresh ≤ after.fresh

/-- A step that changes nothing keeps the links. -/
theorem KeepsLinks.refl (session : Session) : KeepsLinks session session :=
  ⟨rfl, Nat.le_refl _⟩

/-- Steps that keep the links do so together. -/
theorem KeepsLinks.trans {first second third : Session} (left : KeepsLinks first second)
    (right : KeepsLinks second third) : KeepsLinks first third :=
  ⟨right.links.trans left.links, Nat.le_trans left.fresh right.fresh⟩

/-- A unit of the later session was there before, with the same references. -/
theorem KeepsLinks.unit {before after : Session} (kept : KeepsLinks before after) (id : Nat) :
    (after.units.get? id).map LoadedUnit.links = (before.units.get? id).map LoadedUnit.links := by
  have same := congrArg (fun links => links.units.get? id) kept.links
  simpa [Session.links] using same

/-- A resolver of the later session was there before, with the same references. -/
theorem KeepsLinks.resolver {before after : Session} (kept : KeepsLinks before after) (id : Nat) :
    (after.resolvers.get? id).map Resolver.links =
      (before.resolvers.get? id).map Resolver.links := by
  have same := congrArg (fun links => links.resolvers.get? id) kept.links
  simpa [Session.links] using same

/-- A step that changes neither links nor files. -/
structure Quiet (before after : Session) : Prop extends KeepsLinks before after where
  files : after.files = before.files
  temporaries : after.temporaries = before.temporaries

theorem Quiet.refl (session : Session) : Quiet session session :=
  ⟨KeepsLinks.refl session, rfl, rfl⟩

theorem Quiet.trans {first second third : Session} (left : Quiet first second)
    (right : Quiet second third) : Quiet first third :=
  ⟨left.toKeepsLinks.trans right.toKeepsLinks, right.files.trans left.files,
    right.temporaries.trans left.temporaries⟩

/-- A step that leaves all loaders as they are, but for what resolvers do not answer by: their
compilers, the threads that are busy, and the failures that they remember. -/
structure LeavesLoaders (before after : Session) : Prop extends KeepsLinks before after where
  units : after.units = before.units
  defined : ∀ id, (after.resolvers.get? id).map (·.defined) =
    (before.resolvers.get? id).map (·.defined)

theorem LeavesLoaders.refl (session : Session) : LeavesLoaders session session :=
  ⟨.refl session, rfl, fun _ => rfl⟩

theorem LeavesLoaders.trans {first second third : Session} (left : LeavesLoaders first second)
    (right : LeavesLoaders second third) : LeavesLoaders first third :=
  ⟨left.toKeepsLinks.trans right.toKeepsLinks, right.units.trans left.units,
    fun id => (right.defined id).trans (left.defined id)⟩

/-- A step that does not touch loaders, nor what the host holds. -/
theorem leavesLoaders_of_rest {before after : Session} (units : after.units = before.units)
    (resolvers : after.resolvers = before.resolvers) (held : after.held = before.held)
    (fresh : before.fresh ≤ after.fresh) : LeavesLoaders before after :=
  ⟨⟨by simp only [links, units, resolvers, held], fresh⟩, units, fun _ => by rw [resolvers]⟩

/-! ## Steps that keep the links -/

/-- A change of a resolver that leaves its references alone. -/
theorem updateResolver_keepsLinks (session : Session) (id : Nat) (change : Resolver → Resolver)
    (harmless : ∀ resolver, (change resolver).links = resolver.links) :
    KeepsLinks session (session.updateResolver id change) where
  links := by
    simp only [links, updateResolver]
    rw [Table.mapValues_update _ _ _ _ harmless]
  fresh := Nat.le_refl _

/-- A change of a resolver that leaves its references alone changes no files either. -/
theorem updateResolver_quiet (session : Session) (id : Nat) (change : Resolver → Resolver)
    (harmless : ∀ resolver, (change resolver).links = resolver.links) :
    Quiet session (session.updateResolver id change) :=
  ⟨updateResolver_keepsLinks session id change harmless, rfl, rfl⟩

/-- A change of a resolver leaves the loaders if it leaves its references and what was learnt. -/
theorem updateResolver_leavesLoaders (session : Session) (id : Nat) (change : Resolver → Resolver)
    (harmless : ∀ resolver, (change resolver).links = resolver.links)
    (knowing : ∀ resolver, (change resolver).defined = resolver.defined) :
    LeavesLoaders session (session.updateResolver id change) where
  toKeepsLinks := updateResolver_keepsLinks session id change harmless
  units := rfl
  defined other := by
    simp only [updateResolver, Table.get?_update]
    split
    · rw [Option.map_map]
      exact congrArg (fun view => (session.resolvers.get? other).map view) (funext knowing)
    · rfl

theorem markBusy_quiet (session : Session) (id : Nat) (thread : Thread) :
    Quiet session (session.markBusy id thread) :=
  updateResolver_quiet session id _ fun _ => rfl

theorem unmarkBusy_quiet (session : Session) (id : Nat) (thread : Thread) :
    Quiet session (session.unmarkBusy id thread) :=
  updateResolver_quiet session id _ fun _ => rfl

theorem markBusy_leavesLoaders (session : Session) (id : Nat) (thread : Thread) :
    LeavesLoaders session (session.markBusy id thread) :=
  updateResolver_leavesLoaders session id _ (fun _ => rfl) fun _ => rfl

theorem unmarkBusy_leavesLoaders (session : Session) (id : Nat) (thread : Thread) :
    LeavesLoaders session (session.unmarkBusy id thread) :=
  updateResolver_leavesLoaders session id _ (fun _ => rfl) fun _ => rfl

theorem rememberIn_keepsLinks (session : Session) (id : Nat) (symbol : Symbol) :
    KeepsLinks session (session.rememberIn id symbol) where
  links := by
    have same := Table.mapValues_update session.units LoadedUnit.links id
      (fun unit => { unit with resolved := unit.resolved ++ [(symbol.name, symbol)] }) fun _ => rfl
    simp only [links, rememberIn, same]
  fresh := Nat.le_refl _

theorem discard_leavesLoaders (session : Session) (path : String) :
    LeavesLoaders session (session.discard path) := by
  unfold discard
  split <;> exact leavesLoaders_of_rest rfl rfl rfl (Nat.le_refl _)

theorem discard_keepsLinks (session : Session) (path : String) :
    KeepsLinks session (session.discard path) :=
  (session.discard_leavesLoaders path).toKeepsLinks

theorem discard_temporaries (session : Session) (path : String) :
    (session.discard path).temporaries = session.temporaries := by
  unfold discard
  split <;> rfl

theorem dump_quiet (session : Session) (archive : String) :
    Quiet session (session.dump archive) := by
  unfold dump
  split <;> exact ⟨⟨rfl, Nat.le_refl _⟩, rfl, rfl⟩

theorem release_leavesLoaders (session : Session) (id : Nat) :
    LeavesLoaders session (session.release id).1 := by
  unfold release
  split
  · exact .refl session
  · dsimp only
    split <;> exact leavesLoaders_of_rest rfl rfl rfl (Nat.le_refl _)

theorem release_keepsLinks (session : Session) (id : Nat) :
    KeepsLinks session (session.release id).1 :=
  (session.release_leavesLoaders id).toKeepsLinks

theorem invoke_leavesLoaders (session : Session) (id : Nat) (resolver : Resolver) (thread : Thread)
    (request : CompileRequest) :
    LeavesLoaders session (session.invoke id resolver thread request).1 :=
  leavesLoaders_of_rest rfl rfl rfl (Nat.le_refl _)

theorem invoke_keepsLinks (session : Session) (id : Nat) (resolver : Resolver) (thread : Thread)
    (request : CompileRequest) :
    KeepsLinks session (session.invoke id resolver thread request).1 :=
  (session.invoke_leavesLoaders id resolver thread request).toKeepsLinks

/-- Noting that a compile left nothing behind is quiet, but for what is deleted. -/
theorem rejectEmpty_eq (session : Session) (id : Nat) (resolver : Resolver)
    (archive output : String) : ∃ noted, Quiet session noted ∧ LeavesLoaders session noted ∧
      ∀ temporary, session.rejectEmpty id resolver archive output temporary =
        match temporary with
        | some temporary => (noted.release temporary).1
        | none => noted.discard output := by
  let failing := fun resolver : Resolver => { resolver with hasFailed := true }
  have failed : Quiet session ((session.updateResolver id failing).log [.emptyArtifact]) :=
    (updateResolver_quiet session id failing fun _ => rfl).trans ⟨⟨rfl, Nat.le_refl _⟩, rfl, rfl⟩
  have left : LeavesLoaders session ((session.updateResolver id failing).log [.emptyArtifact]) :=
    (updateResolver_leavesLoaders session id failing (fun _ => rfl) fun _ => rfl).trans
      (leavesLoaders_of_rest rfl rfl rfl (Nat.le_refl _))
  have dumped (noted : Session) : LeavesLoaders noted (noted.dump archive) := by
    unfold dump
    split <;> exact leavesLoaders_of_rest rfl rfl rfl (Nat.le_refl _)
  unfold rejectEmpty
  dsimp only
  split
  · exact ⟨_, failed.trans (dump_quiet _ archive), left.trans (dumped _),
      fun temporary => by cases temporary <;> rfl⟩
  · exact ⟨_, failed, left, fun temporary => by cases temporary <;> rfl⟩

theorem rejectEmpty_leavesLoaders (session : Session) (id : Nat) (resolver : Resolver)
    (archive output : String) (temporary : Option Nat) :
    LeavesLoaders session (session.rejectEmpty id resolver archive output temporary) := by
  obtain ⟨noted, -, left, same⟩ := session.rejectEmpty_eq id resolver archive output
  rw [same temporary]
  cases temporary with
  | some temporary => exact left.trans (release_leavesLoaders noted temporary)
  | none => exact left.trans (discard_leavesLoaders noted output)

theorem rejectEmpty_keepsLinks (session : Session) (id : Nat) (resolver : Resolver)
    (archive output : String) (temporary : Option Nat) :
    KeepsLinks session (session.rejectEmpty id resolver archive output temporary) :=
  (session.rejectEmpty_leavesLoaders id resolver archive output temporary).toKeepsLinks

theorem stage_leavesLoaders (session : Session) (staging : Staging) (key : String)
    (extension : Option String) (create : Bool) :
    LeavesLoaders session (session.stage staging key extension create).1 := by
  unfold stage token number
  dsimp only
  split <;> exact leavesLoaders_of_rest rfl rfl rfl (Nat.le_succ _)

theorem stage_keepsLinks (session : Session) (staging : Staging) (key : String)
    (extension : Option String) (create : Bool) :
    KeepsLinks session (session.stage staging key extension create).1 :=
  (session.stage_leavesLoaders staging key extension create).toKeepsLinks

theorem stage_temporaries (session : Session) (staging : Staging) (key : String)
    (extension : Option String) (create : Bool) :
    (session.stage staging key extension create).1.temporaries = session.temporaries := by
  unfold stage token number
  dsimp only
  split <;> rfl

theorem track_leavesLoaders (session : Session) (reaper : Nat) (path : String) :
    LeavesLoaders session (session.track reaper path).1 :=
  leavesLoaders_of_rest rfl rfl rfl (Nat.le_succ _)

theorem track_keepsLinks (session : Session) (reaper : Nat) (path : String) :
    KeepsLinks session (session.track reaper path).1 :=
  (session.track_leavesLoaders reaper path).toKeepsLinks

theorem sweep_leavesLoaders (session : Session) (reaper : Nat) :
    LeavesLoaders session (session.sweep reaper).1 := by
  unfold sweep
  split <;> exact leavesLoaders_of_rest rfl rfl rfl (Nat.le_refl _)

theorem sweep_keepsLinks (session : Session) (reaper : Nat) :
    KeepsLinks session (session.sweep reaper).1 :=
  (session.sweep_leavesLoaders reaper).toKeepsLinks

theorem purge_leavesLoaders (session : Session) (layout : Layout) :
    LeavesLoaders session (session.purge layout).1 :=
  leavesLoaders_of_rest rfl rfl rfl (Nat.le_refl _)

theorem purge_keepsLinks (session : Session) (layout : Layout) :
    KeepsLinks session (session.purge layout).1 :=
  (session.purge_leavesLoaders layout).toKeepsLinks

theorem prepare_leavesLoaders (session : Session) (layout : Layout) (parent : Option Loader) :
    LeavesLoaders session (session.prepare layout parent).1 := by
  unfold prepare
  split
  · exact purge_leavesLoaders session layout
  · exact leavesLoaders_of_rest rfl rfl rfl (Nat.le_refl _)

theorem prepare_keepsLinks (session : Session) (layout : Layout) (parent : Option Loader) :
    KeepsLinks session (session.prepare layout parent).1 :=
  (session.prepare_leavesLoaders layout parent).toKeepsLinks

/-- What taking marks away keeps is kept as time passes. -/
theorem pass_keeps {good : Session → Prop} (session : Session) (time : Nat)
    (passed : ∀ elapsed departures, good { session with elapsed, departures })
    (unmarked : ∀ session id thread, good session → good (session.unmarkBusy id thread)) :
    good (session.pass time) := by
  have all : ∀ (due : List Departure) (later : Session), good later → good (due.foldl
      (fun session departure => session.unmarkBusy departure.resolver departure.thread) later) := by
    intro due
    induction due with
    | nil => exact fun _ now => now
    | cons first rest inductionHypothesis =>
      exact fun later now => inductionHypothesis _ (unmarked later _ _ now)
  exact all _ _ (passed _ _)

/-- Time passes quietly. -/
theorem pass_quiet (session : Session) (time : Nat) : Quiet session (session.pass time) :=
  session.pass_keeps time (fun _ _ => ⟨⟨rfl, Nat.le_refl _⟩, rfl, rfl⟩)
    fun later _ _ quiet => quiet.trans (unmarkBusy_quiet later _ _)

theorem pass_leavesLoaders (session : Session) (time : Nat) :
    LeavesLoaders session (session.pass time) :=
  session.pass_keeps time (fun _ _ => leavesLoaders_of_rest rfl rfl rfl (Nat.le_refl _))
    fun later _ _ left => left.trans (unmarkBusy_leavesLoaders later _ _)

/-! ## What a look-up may leave behind -/

/-- Relations that hold between a session and what a look-up makes of it: those that follow every
single thing that a look-up leaves behind. -/
structure Follows (relation : Session → Session → Prop) : Prop where
  refl : ∀ session, relation session session
  trans : ∀ {first second third}, relation first second → relation second third →
    relation first third
  log : ∀ session events, relation session (session.log events)
  makeSymbol : ∀ session id name unit body, relation session (session.makeSymbol id name unit body).1
  remember : ∀ session id name symbol, relation session (session.remember id name symbol).1

variable {relation : Session → Session → Prop} {ask : Asking}

theorem Follows.askParent (follows : Follows relation)
    (asked : ∀ session loader name, relation session (ask session loader name).1)
    (session : Session) (parent : Option Loader) (name : String) :
    relation session (askParent ask session parent name).1 := by
  cases parent with
  | none => exact follows.refl session
  | some loader => exact asked session loader name

theorem Follows.askUnit (follows : Follows relation)
    (asked : ∀ session loader name, relation session (ask session loader name).1)
    (session : Session) (id : Nat) (name : String) :
    relation session (askUnit ask session id name).1 := by
  unfold Session.askUnit
  split
  · exact follows.refl session
  · split
    · exact follows.refl session
    · split
      · split
        · split
          · exact follows.makeSymbol session id name _ _
          · exact follows.refl session
          · exact follows.refl session
        · exact follows.askParent asked session _ name
      · split
        · exact follows.refl session
        · split
          · exact follows.makeSymbol session id name _ _
          · exact follows.askParent asked session _ name

theorem Follows.askUnits (follows : Follows relation)
    (asked : ∀ session loader name, relation session (ask session loader name).1)
    (session : Session) (name : String) (ids : List Nat) :
    relation session (askUnits ask session name ids).1 := by
  induction ids generalizing session with
  | nil => exact follows.refl session
  | cons id rest inductionHypothesis =>
    have first := asked session (.unit id) name
    unfold Session.askUnits
    rcases heard : ask session (.unit id) name with ⟨after, answer⟩
    rw [heard] at first
    cases answer with
    | found symbol => exact first
    | crashed crash => exact first
    | absent => exact follows.trans first (inductionHypothesis after)
    | failed error =>
      exact follows.trans first (follows.trans (follows.log after _) (inductionHypothesis _))

theorem Follows.askLocal (follows : Follows relation)
    (asked : ∀ session loader name, relation session (ask session loader name).1)
    (session : Session) (id : Nat) (resolver : Resolver) (name : String) :
    relation session (askLocal ask session id resolver name).1 := by
  unfold Session.askLocal
  cases resolver.localUnit with
  | none => exact follows.refl session
  | some loader =>
    have first := asked session loader name
    dsimp only
    rcases heard : ask session loader name with ⟨after, answer⟩
    rw [heard] at first
    cases answer with
    | found symbol => exact follows.trans first (follows.remember after id name symbol)
    | crashed crash => exact first
    | absent => exact first
    | failed error => exact follows.trans first (follows.log after _)

theorem Follows.askRegistry (follows : Follows relation)
    (asked : ∀ session loader name, relation session (ask session loader name).1)
    (session : Session) (id : Nat) (resolver : Resolver) (name : String) :
    relation session (askRegistry ask session id resolver name).1 := by
  have units := follows.askUnits asked session name resolver.registry.recentFirst
  unfold Session.askRegistry
  rcases heard : Session.askUnits ask session name resolver.registry.recentFirst with ⟨after, answer⟩
  rw [heard] at units
  cases answer with
  | absent => exact follows.trans units (follows.askLocal asked after id resolver name)
  | found symbol => exact units
  | crashed crash => exact units
  | failed error => exact units

theorem Follows.askResolver (follows : Follows relation)
    (asked : ∀ session loader name, relation session (ask session loader name).1)
    (session : Session) (id : Nat) (name : String) :
    relation session (askResolver ask session id name).1 := by
  unfold Session.askResolver
  split
  · exact follows.refl session
  · next resolver _ =>
    split
    · exact follows.refl session
    · have parent := follows.askParent asked session resolver.parent name
      rcases heard : Session.askParent ask session resolver.parent name with ⟨after, answer⟩
      rw [heard] at parent
      cases answer with
      | found symbol => exact parent
      | crashed crash => exact parent
      | absent => exact follows.trans parent (follows.askRegistry asked after id resolver name)
      | failed error =>
        exact follows.trans parent
          (follows.trans (follows.log after _) (follows.askRegistry asked _ id resolver name))

/-- A look-up of any depth leaves behind what the relation follows. -/
theorem Follows.askWithin (follows : Follows relation) (depth : Nat) (session : Session)
    (loader : Loader) (name : String) : relation session (askWithin depth session loader name).1 := by
  induction depth generalizing session loader name with
  | zero => exact follows.refl session
  | succ depth inductionHypothesis =>
    cases loader with
    | failing => exact follows.refl session
    | system id =>
      simp only [Session.askWithin, askLoader]
      split <;> exact follows.refl session
    | unit id => exact follows.askUnit inductionHypothesis session id name
    | resolver id => exact follows.askResolver inductionHypothesis session id name

/-- A look-up leaves behind what the relation follows. -/
theorem Follows.find (follows : Follows relation) (session : Session) (loader : Loader)
    (name : String) : relation session (find session loader name).1 :=
  follows.askWithin _ session loader name

/-- A look-up among registered units leaves behind what the relation follows. -/
theorem Follows.findRegistered (follows : Follows relation) (session : Session) (id : Nat)
    (name : String) : relation session (findRegistered session id name).1 := by
  unfold Session.findRegistered
  split
  · exact follows.refl session
  · exact follows.askUnits (follows.askWithin _) session name _

/-- Look-ups are quiet. -/
theorem quiet_follows : Follows Quiet where
  refl := Quiet.refl
  trans := Quiet.trans
  log := fun _ _ => ⟨⟨rfl, Nat.le_refl _⟩, rfl, rfl⟩
  makeSymbol := by
    intro session id name unit body
    have numbered : KeepsLinks session session.number.1 := ⟨rfl, Nat.le_succ _⟩
    have kept := rememberIn_keepsLinks session.number.1 id ⟨name, unit, body, session.fresh⟩
    exact ⟨numbered.trans kept, rfl, rfl⟩
  remember := by
    intro session id name symbol
    unfold Session.remember
    split
    · exact Quiet.refl session
    · split
      · exact Quiet.refl session
      · exact updateResolver_quiet session id _ fun _ => rfl

end Session

end Hotload
