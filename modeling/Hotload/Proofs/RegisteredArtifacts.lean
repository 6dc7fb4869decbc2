import Hotload.Proofs.ContainerRoundTrip

/-!
# Artifacts of registered units

A unit is bound to its artifact before it is registered, and it reads bodies from there only when
they are asked for. Registering lets go of the units that had its name, and that deletes the files of
passing use that only they kept alive. All other artifacts stand as they were bound, whatever was
registered before, so the new unit can read every symbol of its index. The artifact itself is lost
exactly if it is one of those files: the unit replaced kept it alive, and the new unit does not.
-/

namespace Hotload

open Files

namespace UnitContent

/-- An archive is bound to the index of the entries that it has. -/
theorem opened_of_bind {files : Files} {artifact : String} {content : UnitContent}
    (bound : bind .archive files artifact = .ok content) :
    ∃ bytes entries, files.read artifact = .ok bytes ∧ Zip.entries? bytes = some entries ∧
      content = .archive (indexOf entries) := by
  unfold bind bindArchive at bound
  dsimp only at bound
  split at bound
  · cases bound
  · split at bound
    · cases bound
    · split at bound
      · cases bound
      · next bytes entries isOpen =>
        have opened : Packaging.openContainer files artifact = .ok (bytes, entries) := by
          unfold openArtifact at isOpen
          split at isOpen
          · next opened => rw [opened, Except.ok.inj isOpen]
          · cases isOpen
          · cases isOpen
        obtain ⟨isRead, listed, -⟩ := Packaging.openContainer_ok opened
        exact ⟨bytes, entries, isRead, listed, (Except.ok.inj bound).symm⟩

/-- The body of an entry that can be read is its content. -/
theorem readBody_of_entry {files : Files} {artifact : String} {bytes content : Bytes}
    {entries : List Zip.Entry} {entry : Zip.Entry} (isRead : files.read artifact = .ok bytes)
    (isList : Zip.entries? bytes = some entries) (inside : entry ∈ entries)
    (readable : entry.content bytes = .ok content) (room : entry.declaredSize < addressLimit) :
    readBody files artifact entry.name = .body content := by
  have own := find?_own (Zip.entries?_distinct isList) inside
  rw [readBody, openArtifact, Packaging.openContainer, isRead]
  dsimp only
  rw [isList]
  dsimp only
  rw [own]
  dsimp only
  rw [readable]
  dsimp only
  rw [if_neg (Nat.not_le.mpr room)]

end UnitContent

namespace Session

variable {session after : Session} {id number : Nat} {holder : String} {resolver : Resolver}
variable {unit : LoadedUnit} {name artifact : String} {temporary : Option Nat}

/-- Letting go of files shows a path as before, or one of them was removed and the path shows nothing
any more. -/
theorem dropTemporaries_shown (dead : List Nat) (session : Session) (path : String) :
    (dead.foldl dropTemporary session).files.shown? path = session.files.shown? path ∨
      ∃ temporary ∈ dead, ∃ file, ∃ between : Files, (temporary, file) ∈ session.temporaries ∧
        file.isReleased = false ∧ between.shown? path = session.files.shown? path ∧
          (between.removeIfExists file.path).1.shown? path = none := by
  induction dead generalizing session with
  | nil => exact .inl rfl
  | cons first rest inductionHypothesis =>
    rw [List.foldl_cons]
    -- What the first file takes away stays away, and what it leaves the others may take away.
    have early : (session.dropTemporary first).files.shown? path = session.files.shown? path ∨
        ∃ file, (first, file) ∈ session.temporaries ∧ file.isReleased = false ∧
          (session.files.removeIfExists file.path).1.shown? path = none := by
      rcases session.dropTemporary_files first with same | ⟨file, present, unreleased, removed⟩
      · exact .inl (by rw [same])
      · rw [removed]
        exact (shown_removeIfExists session.files file.path path).imp_right fun gone =>
          ⟨file, Table.mem_of_get? present, unreleased, gone⟩
    rcases early with same | ⟨file, listed, unreleased, gone⟩
    · refine (inductionHypothesis (session.dropTemporary first)).imp (fun kept => kept.trans same) ?_
      rintro ⟨temporary, member, file, between, listed, unreleased, shown, gone⟩
      rw [dropTemporary_temporaries] at listed
      exact ⟨temporary, List.mem_cons_of_mem _ member, file, between, (List.mem_filter.mp listed).1,
        unreleased, shown.trans same, gone⟩
    · exact .inr ⟨first, List.mem_cons_self, file, session.files, listed, unreleased, rfl, gone⟩

/-! ## What registering comes to -/

/-- An artifact is registered as a unit, under a given name or under the name of its file. -/
def Registers (session : Session) (id : Nat) (name artifact : String) (temporary : Option Nat)
    (after : Session) (number : Nat) : Prop :=
  session.register id name artifact temporary = (after, .ok number) ∨
    session.loadArtifact id artifact = (after, .ok number) ∧ name = Path.unitName artifact ∧
      temporary = none

/-- The artifact of a unit shows what it showed when the unit was bound to it, and a look-up of any
symbol of the unit's index gives the body that is there, unless the archive itself is damaged. -/
structure StandsBound (session after : Session) (number : Nat) (unit : LoadedUnit) : Prop where
  shown : ∃ location bytes modified,
    session.files.shown? unit.artifact = some (location, .file bytes modified) ∧
      after.files.shown? unit.artifact = some (location, .file bytes modified)
  bodies : ∀ index, unit.content = .archive index → ∃ bytes entries,
    after.files.read unit.artifact = .ok bytes ∧ Zip.entries? bytes = some entries ∧
      index = UnitContent.indexOf entries ∧
        ∀ symbol ∈ index.map (·.1), ∃ entry ∈ entries, Symbol.symbolName? entry.name = some symbol ∧
          ∀ content, entry.content bytes = .ok content →
            entry.declaredSize < UnitContent.addressLimit → ∃ serial,
              (after.find (.unit number) symbol).2 =
                .found ⟨symbol, unit.name, .bytecode content, serial⟩

/-- A unit that was replaced kept a file of passing use alive, nothing refers to that file any more,
and deleting it takes the artifact away. -/
def TakenAlong (session : Session) (resolver : Resolver) (name artifact : String) (after : Session) :
    Prop :=
  ∃ temporary file, ∃ between : Files, KeptByReplaced session resolver name temporary ∧
    (temporary, file) ∈ session.temporaries ∧ file.isReleased = false ∧
      .temporary temporary ∉ after.targets ∧
        between.shown? artifact = session.files.shown? artifact ∧
          (between.removeIfExists file.path).1.shown? artifact = none

/-- A native library is not bound to an index. -/
theorem platform_of_index {platform : Platform} {files : Files} {index : List (String × String)}
    (bound : UnitContent.bind platform files artifact = .ok (.archive index)) :
    platform = .archive := by
  cases platform with
  | archive => rfl
  | native =>
    unfold UnitContent.bind UnitContent.bindNative at bound
    dsimp only at bound
    split at bound
    · cases bound
    · split at bound
      · cases bound
      · split at bound <;> cases bound

/-- A unit that has learnt nothing makes the symbol of the body of the entry to which its index
leads. -/
theorem find_unlearnt (present : after.units.get? number = some unit) (unlearnt : unit.resolved = [])
    {index : List (String × String)} (indexed : unit.content = .archive index) {symbol entry : String}
    (leads : index.lookup symbol = some entry) {content : Bytes}
    (isRead : UnitContent.readBody after.files unit.artifact entry = .body content) :
    after.find (.unit number) symbol =
      after.makeSymbol number symbol unit.name (.bytecode content) := by
  have asked : after.find (.unit number) symbol =
      after.askUnit (askWithin after.loaderCount) number symbol := rfl
  rw [asked, askUnit, present]
  simp only [unlearnt, List.lookup_nil, indexed, leads, isRead]

/-- A unit that has learnt nothing, with an artifact that shows what it showed, stands as it was
bound. -/
theorem standsBound_of_shown {platform : Platform}
    (present : after.units.get? number = some unit) (unlearnt : unit.resolved = [])
    (bound : UnitContent.bind platform session.files unit.artifact = .ok unit.content)
    (same : after.files.shown? unit.artifact = session.files.shown? unit.artifact) :
    StandsBound session after number unit := by
  obtain ⟨location, bytes, modified, shown⟩ := UnitContent.shown_of_bind bound
  refine ⟨⟨location, bytes, modified, shown, same.trans shown⟩, fun index indexed => ?_⟩
  rw [indexed] at bound
  obtain rfl := platform_of_index bound
  have rebound := (UnitContent.bind_of_shown shown (same.trans shown) .archive).trans bound
  obtain ⟨bytes, entries, isRead, isList, isIndex⟩ := UnitContent.opened_of_bind rebound
  cases isIndex
  refine ⟨bytes, entries, isRead, isList, rfl, fun symbol listed => ?_⟩
  obtain ⟨entry, last⟩ : ∃ entry, UnitContent.entryFor? entries symbol = some entry := by
    obtain ⟨entry, member, names⟩ := (UnitContent.mem_indexOf entries symbol).mp listed
    refine Option.isSome_iff_exists.mp (List.find?_isSome.mpr ⟨entry, ?_, by simpa using names⟩)
    exact List.mem_reverse.mpr member
  have member : entry ∈ entries := List.mem_reverse.mp (List.mem_of_find?_eq_some last)
  refine ⟨entry, member, by simpa using List.find?_some last, fun content readable room => ?_⟩
  have leads : (UnitContent.indexOf entries).lookup symbol = some entry.name := by
    rw [UnitContent.lookup_indexOf, last, Option.map_some]
  have made := find_unlearnt present unlearnt indexed leads
    (UnitContent.readBody_of_entry isRead isList member readable room)
  exact ⟨after.fresh, congrArg Prod.snd made⟩

/-- Putting a unit into a registry leaves its artifact as it was, or takes it along with a unit
replaced. -/
theorem Clean.enlisted_shown (clean : Clean session) (wired : Wired session)
    (distinct : Distinct session) (present : session.resolvers.get? id = some resolver)
    (unit : LoadedUnit) (path : String) :
    (session.enlisted id unit).settle.files.shown? path = session.files.shown? path ∨
      TakenAlong session resolver unit.name path (session.enlisted id unit).settle := by
  have rest := (session.enlisted id unit).keptLoaders_pruned.rest
  have files : (session.enlisted id unit).keptLoaders.files = session.files := by rw [rest]; rfl
  have temporaries : (session.enlisted id unit).keptLoaders.temporaries = session.temporaries := by
    rw [rest]; rfl
  rw [settle_eq]
  refine (dropTemporaries_shown _ (session.enlisted id unit).keptLoaders path).imp
    (fun kept => kept.trans (by rw [files])) ?_
  rintro ⟨temporary, dead, file, between, listed, unreleased, shown, gone⟩
  have unreferred := (List.mem_filter.mp dead).2
  rw [files] at shown
  rw [temporaries] at listed
  refine ⟨temporary, file, between, clean.enlisted_dead wired distinct present dead, listed,
    unreleased, ?_, shown, gone⟩
  rw [(dropTemporaries_keepsLinks _ _).targets]
  simpa using unreferred

/-- Whoever registers an artifact and gets a unit for it has a unit bound to the artifact, the most
recent one of the resolver, and the artifact stands as it was bound, unless it was one of the files
that only a unit replaced kept alive. A careful host leaves nothing that nobody refers to, so what a
registration lets go of is the unit replaced and what it alone referred to; the artifact shows what
it showed, or it was the path of such a file. -/
theorem registered_artifact_stands (hosted : Hosted session)
    (held : (holder, .loader (.resolver id)) ∈ session.held)
    (present : session.resolvers.get? id = some resolver)
    (registers : Registers session id name artifact temporary after number) :
    ∃ unit : LoadedUnit, unit.name = name ∧ unit.artifact = artifact ∧
      unit.temporary = temporary ∧
      UnitContent.bind resolver.platform session.files artifact = .ok unit.content ∧
      Enrolled after id holder (Registry.register resolver.registry name number) number unit ∧
        (StandsBound session after number unit ∨ TakenAlong session resolver name artifact after) := by
  have registered : session.register id name artifact temporary = (after, .ok number) := by
    rcases registers with registered | ⟨loaded, rfl, rfl⟩
    · exact registered
    · unfold loadArtifact at loaded
      split at loaded
      · exact loaded
      · cases (Prod.mk.inj loaded).2
  have reached := hosted.reachable
  rcases session.register_cases id name artifact temporary with
    ⟨error, failed⟩ | ⟨now, size, content, isNow, _, bound, succeeded⟩
  · rw [failed] at registered
    cases (Prod.mk.inj registered).2
  · obtain rfl := Option.some.inj (isNow.symm.trans present)
    rw [succeeded] at registered
    obtain ⟨rfl, isNumber⟩ := Prod.mk.inj registered
    obtain rfl := Except.ok.inj isNumber
    have enrolled := (enlisted_enrolled reached.wired held present
      (unitOf now name artifact temporary content)).settle
    refine ⟨unitOf now name artifact temporary content, rfl, rfl, rfl, bound, enrolled, ?_⟩
    exact (hosted.clean.enlisted_shown reached.wired reached.distinct present
      (unitOf now name artifact temporary content) artifact).imp_left
        (standsBound_of_shown enrolled.present rfl bound)

/-! ### A unit that is registered again -/

/-- A resolver beside two containers. -/
def besideTwo : Session :=
  perform { files := ⟨[(["tmp"], .directory), (["tmp", "work"], .directory),
      (["tmp", "work", "a.zip"], .file (Zip.write [("A.class", [1])]) 1000),
      (["tmp", "work", "b.zip"], .file (Zip.write []) 1000)], 0⟩ }
    (.openResolver "loader" { cacheDirectory := "cache" } Compiler.passthrough .archive none)

/-- The resolver beside the two containers has registered one of them, and the unit keeps a file of
passing use alive that has the given path. -/
def besideKept (tracked : String) : Session :=
  ((besideTwo.trackHeld "file" 0 tracked).perform (.register 1 "a.zip" "a.zip" (some 2))).perform
    (.letGo "file")

theorem besideKept_hosted (tracked : String)
    (given : (besideTwo.trackHeld "file" 0 tracked).fresh = 3) : Hosted (besideKept tracked) := by
  have opened : Hosted besideTwo := (Hosted.start _).perform trivial
  have careful : Careful (besideTwo.trackHeld "file" 0 tracked)
      (.register 1 "a.zip" "a.zip" (some 2)) := by
    intro number isNumber
    rw [given, Option.mem_some.mp isNumber.symm]
    exact Nat.lt_succ_self 2
  exact ((opened.trackHeld "file" 0 tracked).perform careful).perform trivial

/-- An archive is registered in place of a unit that keeps another file of passing use alive. That
file is deleted with the unit, and the symbol is read from the archive. -/
theorem registered_artifact_stands_apart :
    ∃ after resolver, (besideKept "b.zip").loadArtifact 1 "a.zip" = (after, .ok 4) ∧
      (besideKept "b.zip").resolvers.get? 1 = some resolver ∧
      (∃ unit : LoadedUnit, unit.name = "a.zip" ∧ unit.artifact = "a.zip" ∧ unit.temporary = none ∧
        UnitContent.bind resolver.platform (besideKept "b.zip").files "a.zip" = .ok unit.content ∧
        Enrolled after 1 "loader" (Registry.register resolver.registry "a.zip" 4) 4 unit ∧
          (StandsBound (besideKept "b.zip") after 4 unit ∨
            TakenAlong (besideKept "b.zip") resolver "a.zip" "a.zip" after)) ∧
      after.files.isFile "b.zip" = false ∧
        (after.find (.unit 4) "A").2 = .found ⟨"A", "a.zip", .bytecode [1], 5⟩ := by
  have seen : (besideTwo.trackHeld "file" 0 "b.zip").fresh = 3 ∧
      ("loader", .loader (.resolver 1)) ∈ (besideKept "b.zip").held ∧
      ((besideKept "b.zip").resolvers.get? 1).isSome = true ∧
      Path.unitName "a.zip" = "a.zip" ∧
      ((besideKept "b.zip").loadArtifact 1 "a.zip").2.toOption = some 4 ∧
      ((besideKept "b.zip").loadArtifact 1 "a.zip").1.files.isFile "b.zip" = false ∧
        (((besideKept "b.zip").loadArtifact 1 "a.zip").1.find (.unit 4) "A").2 =
          .found ⟨"A", "a.zip", .bytecode [1], 5⟩ := by
    decide +kernel
  obtain ⟨given, held, opened, name, number, rest⟩ := seen
  obtain ⟨resolver, present⟩ := Option.isSome_iff_exists.mp opened
  obtain ⟨after, loaded⟩ : ∃ after,
      (besideKept "b.zip").loadArtifact 1 "a.zip" = (after, .ok 4) := by
    generalize (besideKept "b.zip").loadArtifact 1 "a.zip" = result at number
    obtain ⟨after, error | number⟩ := result
    · cases number
    · exact ⟨after, by rw [Option.some.inj number]⟩
  rw [loaded] at rest
  exact ⟨after, resolver, loaded, present, registered_artifact_stands
    (besideKept_hosted "b.zip" given) held present (.inr ⟨loaded, name.symm, rfl⟩), rest⟩

/-- An archive is registered in place of a unit whose file of passing use is the archive itself. It
is bound and then deleted with the unit, so its symbol cannot be read. -/
theorem registered_artifact_lost :
    (besideKept "a.zip").files.isFile "a.zip" = true ∧
    ((besideKept "a.zip").loadArtifact 1 "a.zip").2.toOption = some 4 ∧
    ((besideKept "a.zip").loadArtifact 1 "a.zip").1.files.isFile "a.zip" = false ∧
    (((besideKept "a.zip").loadArtifact 1 "a.zip").1.find (.unit 4) "A").2 =
      .failed (.file .notFound) := by
  decide +kernel

end Session

end Hotload
