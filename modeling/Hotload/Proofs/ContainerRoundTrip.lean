import Hotload.Proofs.ContainerCopies

/-!
# Containers that come back

A container that was copied to an artifact comes back symbol by symbol. The unit lists the symbols
that the copied entries define, in strict order, and a look-up gives the content of the last entry
that defines the symbol, or nothing where none does. A look-up remembers the symbol it made and
leaves the tree alone, so the next one answers from the same parts; what is true of one look-up is
true of any number of them.

That archives read back is not left to be assumed: it holds of all parts that fit into the format.
-/

namespace Hotload

open Files

/-- The last part that defines a symbol. -/
def lastPart? (parts : List (String × Bytes)) (symbol : String) : Option (String × Bytes) :=
  parts.reverse.find? fun part => Symbol.symbolName? part.1 = some symbol

/-- An entry stands for a part: it has its name and gives its content back, with a size that there is
room for. -/
structure Zip.Restores (container : Bytes) (part : String × Bytes) (entry : Zip.Entry) : Prop where
  name : entry.name = part.1
  content : entry.content container = .ok part.2
  room : entry.declaredSize < UnitContent.addressLimit

/-- A container gives back the parts it was made of, in their order. -/
def Zip.ReadsBack (parts : List (String × Bytes)) : Prop :=
  ∃ listed, Zip.entries? (Zip.write parts) = some listed ∧
    List.Forall₂ (Zip.Restores (Zip.write parts)) parts listed

/-- Parts that fit into the format read back. -/
theorem readsBack_of_storable {parts : List (String × Bytes)} (storable : Zip.Storable parts) :
    Zip.ReadsBack parts := by
  refine ⟨_, Zip.entries?_write storable, ?_⟩
  have small := storable.smallContents
  refine (List.forall₂_iff_get.mpr ?_)
  have written := List.forall₂_iff_get.mp (Zip.contents_write parts)
  refine ⟨written.1, fun index left right => ?_⟩
  obtain ⟨name, content, declared⟩ := written.2 index left right
  have fits := small _ (List.get_mem parts ⟨index, left⟩)
  exact ⟨name, content, by rw [declared]; unfold UnitContent.addressLimit; omega⟩

section Parts

variable {container : Bytes} {parts : List (String × Bytes)} {listed : List Zip.Entry}

/-- Entries that stand for parts have their names. -/
theorem names_of_restores (restores : List.Forall₂ (Zip.Restores container) parts listed) :
    listed.map (·.name) = parts.map (·.1) := by
  induction restores with
  | nil => rfl
  | cons head _ inductionHypothesis =>
    rw [List.map_cons, List.map_cons, head.name, inductionHypothesis]

/-- The last entry that defines a symbol stands for the last part that does. -/
theorem entryFor?_restores (restores : List.Forall₂ (Zip.Restores container) parts listed)
    (symbol : String) :
    Option.Rel (Zip.Restores container) (lastPart? parts symbol)
      (UnitContent.entryFor? listed symbol) := by
  have backwards := List.rel_reverse restores
  unfold lastPart? UnitContent.entryFor?
  generalize parts.reverse = before, listed.reverse = behind at backwards
  induction backwards with
  | nil => exact .none
  | cons head _ inductionHypothesis =>
    rw [List.find?_cons, List.find?_cons, head.name]
    split
    · exact .some head
    · exact inductionHypothesis

/-- Where names are distinct, an entry is found by its own. -/
theorem find?_own (distinct : (listed.map (·.name)).Nodup) {entry : Zip.Entry}
    (inside : entry ∈ listed) : listed.find? (·.name == entry.name) = some entry := by
  have found : (listed.find? (·.name == entry.name)).isSome := by
    rw [List.find?_isSome]
    exact ⟨entry, inside, by simp⟩
  obtain ⟨other, isOther⟩ := Option.isSome_iff_exists.mp found
  have same : other.name = entry.name := by simpa using List.find?_some isOther
  rw [isOther, List.inj_on_of_nodup_map distinct (List.mem_of_find?_eq_some isOther) inside same]

end Parts

namespace UnitContent

variable {files : Files} {artifact : String} {parts : List (String × Bytes)}
variable {listed : List Zip.Entry}

/-- An artifact with given parts is opened to them. -/
theorem openArtifact_of_read (isRead : files.read artifact = .ok (Zip.write parts))
    (isList : Zip.entries? (Zip.write parts) = some listed) :
    openArtifact files artifact = .ok (Zip.write parts, listed) := by
  rw [openArtifact, Packaging.openContainer, isRead]
  dsimp only
  rw [isList]

/-- An artifact with given parts is bound to the index of the entries that they are listed as. -/
theorem index_of_read {content : UnitContent}
    (isRead : files.read artifact = .ok (Zip.write parts))
    (isList : Zip.entries? (Zip.write parts) = some listed)
    (bound : bind .archive files artifact = .ok content) :
    content = .archive (indexOf listed) := by
  unfold bind bindArchive at bound
  dsimp only at bound
  rw [openArtifact_of_read isRead isList] at bound
  split at bound
  · cases bound
  · split at bound
    · cases bound
    · exact (Except.ok.inj bound).symm

/-- The body of an entry that stands for a part is the content of the part. -/
theorem readBody_of_restores (isRead : files.read artifact = .ok (Zip.write parts))
    (isList : Zip.entries? (Zip.write parts) = some listed) {part : String × Bytes}
    {entry : Zip.Entry} (restores : Zip.Restores (Zip.write parts) part entry)
    (inside : entry ∈ listed) : readBody files artifact entry.name = .body part.2 := by
  have own := find?_own (Zip.entries?_distinct isList) inside
  rw [readBody, openArtifact_of_read isRead isList]
  dsimp only
  rw [own]
  dsimp only
  rw [restores.content]
  dsimp only
  rw [if_neg (Nat.not_le.mpr restores.room)]

end UnitContent

namespace Session

/-- A unit answers from the parts of its artifact, and what it remembers came from them. -/
structure Offering (session : Session) (number : Nat) (listed : List Zip.Entry)
    (parts : List (String × Bytes)) (unit : LoadedUnit) : Prop where
  present : session.units.get? number = some unit
  orphan : unit.parent = none
  indexed : unit.content = .archive (UnitContent.indexOf listed)
  readable : session.files.read unit.artifact = .ok (Zip.write parts)
  remembered : ∀ asked symbol, unit.resolved.lookup asked = some symbol →
    ∃ part, lastPart? parts asked = some part ∧
      symbol = ⟨asked, unit.name, .bytecode part.2, symbol.serial⟩

/-- The answer to a look-up in a unit made of parts. -/
def OfParts (parts : List (String × Bytes)) (name asked : String) (answer : Answer) : Prop :=
  match lastPart? parts asked with
  | some part => ∃ serial, answer = .found ⟨asked, name, .bytecode part.2, serial⟩
  | none => answer = .absent

variable {session after : Session} {number : Nat} {listed : List Zip.Entry}
variable {parts : List (String × Bytes)} {unit : LoadedUnit}

/-- A unit that remembers one more symbol, which came from its parts, still answers from them. -/
theorem Offering.remember (offering : Offering session number listed parts unit) {asked : String}
    {part : String × Bytes} (isLast : lastPart? parts asked = some part) (serial : Nat)
    (unknown : unit.resolved.lookup asked = none) :
    Offering (session.number.1.rememberIn number ⟨asked, unit.name, .bytecode part.2, serial⟩)
      number listed parts
      { unit with resolved :=
          unit.resolved ++ [(asked, ⟨asked, unit.name, .bytecode part.2, serial⟩)] } where
  present := by
    have stands : session.number.1.units.get? number = some unit := offering.present
    simp only [rememberIn, Table.get?_update, ↓reduceIte, stands, Option.map_some]
  orphan := offering.orphan
  indexed := offering.indexed
  readable := offering.readable
  remembered other symbol found := by
    rw [List.lookup_append] at found
    cases early : unit.resolved.lookup other with
    | some known =>
      rw [early] at found
      obtain rfl := Option.some.inj found
      exact offering.remembered other known early
    | none =>
      rw [early, Option.none_or, List.lookup_cons] at found
      split at found
      · next same =>
        obtain rfl := eq_of_beq same
        obtain rfl := Option.some.inj found
        exact ⟨part, isLast, rfl⟩
      · cases found

/-- One look-up answers from the parts, and leaves a unit that does. -/
theorem Offering.find (offering : Offering session number listed parts unit)
    (isList : Zip.entries? (Zip.write parts) = some listed)
    (restores : List.Forall₂ (Zip.Restores (Zip.write parts)) parts listed) (asked : String) :
    OfParts parts unit.name asked (session.find (.unit number) asked).2 ∧
      ∃ later, later.name = unit.name ∧
        Offering (session.find (.unit number) asked).1 number listed parts later := by
  have answer : session.find (.unit number) asked =
      askUnit (askWithin session.loaderCount) session number asked := rfl
  rw [answer, askUnit, offering.present]
  dsimp only
  cases known : unit.resolved.lookup asked with
  | some symbol =>
    obtain ⟨part, isLast, isSymbol⟩ := offering.remembered asked symbol known
    refine ⟨?_, unit, rfl, offering⟩
    simp only [OfParts, isLast]
    exact ⟨symbol.serial, congrArg Answer.found isSymbol⟩
  | none =>
    have last := entryFor?_restores restores asked
    rw [offering.indexed]
    dsimp only
    rw [UnitContent.lookup_indexOf]
    cases isLast : lastPart? parts asked with
    | none =>
      rw [isLast] at last
      cases isEntry : UnitContent.entryFor? listed asked with
      | some entry => rw [isEntry] at last; cases last
      | none =>
        rw [Option.map_none, offering.orphan]
        exact ⟨by simp only [OfParts, isLast, askParent], unit, rfl, offering⟩
    | some part =>
      rw [isLast] at last
      cases isEntry : UnitContent.entryFor? listed asked with
      | none => rw [isEntry] at last; cases last
      | some entry =>
        rw [isEntry] at last
        cases last with
        | some stands =>
          have inside : entry ∈ listed := by
            have found := List.mem_of_find?_eq_some isEntry
            exact List.mem_reverse.mp found
          rw [Option.map_some]
          dsimp only
          rw [UnitContent.readBody_of_restores offering.readable isList stands inside]
          dsimp only
          have next := offering.remember isLast session.fresh known
          refine ⟨?_, _, ?_, next⟩
          · simp only [OfParts, isLast]
            exact ⟨session.fresh, rfl⟩
          · rfl

/-- Looks symbols up in a unit, one after the other. -/
def findEach (session : Session) (number : Nat) (names : List String) : Session :=
  names.foldl (fun session name => (session.find (.unit number) name).1) session

/-- Any number of look-ups leaves a unit that answers from its parts. -/
theorem Offering.findEach (offering : Offering session number listed parts unit)
    (isList : Zip.entries? (Zip.write parts) = some listed)
    (restores : List.Forall₂ (Zip.Restores (Zip.write parts)) parts listed) (names : List String) :
    ∃ later, later.name = unit.name ∧
      Offering (session.findEach number names) number listed parts later := by
  induction names generalizing session unit with
  | nil => exact ⟨unit, rfl, offering⟩
  | cons name rest inductionHypothesis =>
    obtain ⟨_, later, same, next⟩ := offering.find isList restores name
    obtain ⟨last, still, stands⟩ := inductionHypothesis next
    exact ⟨last, still.trans same, stands⟩

/-- A unit offers what the parts of its artifact define: it lists their symbols in strict order, and
whatever was looked up before, a look-up gives the content of the last part that defines the symbol,
or nothing where none does. -/
structure Offers (session : Session) (number : Nat) (name : String)
    (parts : List (String × Bytes)) : Prop where
  lists : ∃ unit, session.units.get? number = some unit ∧ unit.name = name ∧
    unit.symbolNames.Pairwise (· < ·) ∧ ∀ symbol, symbol ∈ unit.symbolNames ↔
      ∃ part ∈ parts, Symbol.symbolName? part.1 = some symbol
  answers : ∀ before asked,
    OfParts parts name asked ((session.findEach number before).find (.unit number) asked).2

/-- A unit whose artifact reads back offers its parts. -/
theorem Offering.offers (offering : Offering session number listed parts unit)
    (isList : Zip.entries? (Zip.write parts) = some listed)
    (restores : List.Forall₂ (Zip.Restores (Zip.write parts)) parts listed) :
    Offers session number unit.name parts where
  lists := by
    refine ⟨unit, offering.present, rfl, LoadedUnit.symbolNames_ascending offering.indexed, ?_⟩
    intro symbol
    have names := names_of_restores restores
    have through : (∃ entry ∈ listed, Symbol.symbolName? entry.name = some symbol) ↔
        ∃ name ∈ listed.map (·.name), Symbol.symbolName? name = some symbol := by simp
    rw [LoadedUnit.mem_symbolNames offering.indexed, through, names]
    simp
  answers before asked := by
    obtain ⟨later, same, stands⟩ := offering.findEach isList restores before
    rw [← same]
    exact (stands.find isList restores asked).1

/-- What a container comes to that was loaded by copying it: its entries have distinct names, those
that are no directories were copied in their order, the artifact holds them, and a new unit, the most
recent one of the resolver, offers them if the artifact reads back. -/
structure RoundTrip (session : Session) (id : Nat) (resolver : Resolver) (container output : String)
    (after : Session) (number : Nat) (entries : List Zip.Entry) (parts : List (String × Bytes)) :
    Prop where
  opened : ∃ content, Packaging.openContainer session.files container = .ok (content, entries) ∧
    List.Forall₂ (Packaging.Copies content) (entries.filter (!·.isDirectory)) parts
  distinct : (entries.map (·.name)).Nodup
  artifact : after.files.read output = .ok (Zip.write parts)
  registered : (after.resolvers.get? id).map (·.registry) =
    some (Registry.register resolver.registry (Path.unitName output) number)
  offers : Zip.ReadsBack parts → Offers after number (Path.unitName output) parts

/-- A container that a resolver without a parent compiles by passing it on comes back, unless the
unit that it replaces keeps a file of passing use alive. There is no artifact of the container yet,
so it is compiled. The compile copies entry by entry, and the new unit remembers nothing and has
nobody behind it, so it answers from the parts of its artifact alone. -/
theorem loadContainer_round_trip (hosted : Hosted session) {holder : String} {id : Nat}
    (held : (holder, .loader (.resolver id)) ∈ session.held) {resolver : Resolver}
    (present : session.resolvers.get? id = some resolver) (orphan : resolver.parent = none)
    (archive : resolver.platform = .archive) (passes : resolver.compiler = Compiler.passthrough)
    {container output : String}
    (durable : resolver.staging.durablePath container session.files = .ok output)
    (compiles : session.outputSize output = 0)
    (untied : Untied session resolver (Path.unitName output)) {thread : Thread}
    (loaded : session.loadContainer id thread container = (after, .ok number)) :
    ∃ entries parts, RoundTrip session id resolver container output after number entries parts := by
  have reached := hosted.reachable
  have isCompiled : session.compileContainer id resolver thread container output
      (Path.unitName output) = (after, .ok number) := by
    unfold loadContainer at loaded
    rw [present] at loaded
    dsimp only at loaded
    split at loaded
    · cases (Prod.mk.inj loaded).2
    · rw [durable] at loaded
      dsimp only at loaded
      rwa [compileOrReuse, if_pos compiles] at loaded
  obtain ⟨unit, parts, copied⟩ := compileContainer_copied hosted.clean reached.wired
    reached.distinct held present passes untied isCompiled
  obtain ⟨content, entries, opened, copies⟩ := copied.entries
  obtain ⟨artifact, parent, resolved⟩ := copied.made
  refine ⟨entries, parts, ⟨content, opened, copies⟩,
    Zip.entries?_distinct (Packaging.openContainer_ok opened).2.1, copied.artifact,
    copied.enrolled.listed, ?_⟩
  rintro ⟨listed, isList, restores⟩
  rw [← copied.named]
  have bound := copied.bound
  rw [archive] at bound
  have offering : Offering after number listed parts unit := by
    refine ⟨copied.enrolled.present, parent.trans orphan,
      UnitContent.index_of_read copied.artifact isList bound, by rw [artifact]; exact copied.artifact,
      ?_⟩
    intro asked symbol known
    rw [resolved] at known
    cases known
  exact offering.offers isList restores

/-! ### A container with two entries for one symbol -/

/-- Two entries that define one symbol, and one that defines none. -/
def sampleParts : List (String × Bytes) :=
  [("a/b.class", [1]), ("a.b.class", [2]), ("x.txt", [3])]

/-- A container with these entries, next to a resolver that passes archives on. -/
def besideSample : Session :=
  perform { files := ⟨[(["tmp"], .directory), (["tmp", "work"], .directory),
      (["tmp", "work", "a.zip"], .file (Zip.write sampleParts) 1000)], 0⟩ }
    (.openResolver "loader" { cacheDirectory := "cache" } Compiler.passthrough .archive none)

/-- The resolver next to the container. -/
def passer : Resolver :=
  { copier with
    staging := Staging.ofConfig { cacheDirectory := "cache" }, compiler := Compiler.passthrough }

theorem sampleParts_storable : Zip.Storable sampleParts := by
  constructor <;> decide +kernel

theorem besideSample_read : besideSample.files.read "a.zip" = .ok (Zip.write sampleParts) := by
  rfl

/-- A container with two entries for one symbol and one that defines none is loaded. It comes back
part by part, and a look-up of the symbol gives the content of the later entry. -/
theorem loadContainer_round_trip_sample : ∃ after number entries,
    besideSample.loadContainer 1 "main" "a.zip" = (after, .ok number) ∧
      RoundTrip besideSample 1 passer "a.zip"
        (durable passer (Staging.durableMessage "a.zip" 1000)) after number entries sampleParts ∧
      ∃ serial, (after.find (.unit number) "a.b").2 =
        .found ⟨"a.b", Path.unitName (durable passer (Staging.durableMessage "a.zip" 1000)),
          .bytecode [2], serial⟩ := by
  have hosted : Hosted besideSample := (Hosted.start _).perform trivial
  have present : besideSample.resolvers.get? 1 = some passer := rfl
  have found : (besideSample.loadContainer 1 "main" "a.zip").2.toOption = some 3 := by
    decide +kernel
  obtain ⟨after, loaded⟩ : ∃ after, besideSample.loadContainer 1 "main" "a.zip" = (after, .ok 3) := by
    generalize besideSample.loadContainer 1 "main" "a.zip" = result at found
    obtain ⟨after, error | number⟩ := result
    · cases found
    · exact ⟨after, by rw [show number = 3 from Option.some.inj found]⟩
  have untied : Untied besideSample passer
      (Path.unitName (durable passer (Staging.durableMessage "a.zip" 1000))) := by
    intro old there replaced
    cases replaced
  have held : ("loader", .loader (.resolver 1)) ∈ besideSample.held := by decide +kernel
  have modified : besideSample.files.modified "a.zip" = .ok 1000 := by decide +kernel
  have lasting : passer.staging.durablePath "a.zip" besideSample.files =
      .ok (durable passer (Staging.durableMessage "a.zip" 1000)) := by
    unfold Staging.durablePath
    rw [modified]
    rfl
  have compiles : besideSample.outputSize
      (durable passer (Staging.durableMessage "a.zip" 1000)) = 0 := by decide +kernel
  obtain ⟨entries, parts, trip⟩ := loadContainer_round_trip hosted held present rfl rfl rfl lasting
    compiles untied loaded
  have isParts : parts = sampleParts := by
    obtain ⟨content, opened, copies⟩ := trip.opened
    obtain ⟨same, listed, -⟩ := Packaging.openContainer_ok opened
    obtain rfl := Except.ok.inj (same.symm.trans besideSample_read)
    obtain rfl := Option.some.inj (listed.symm.trans (Zip.entries?_write sampleParts_storable))
    exact Packaging.copies_written _ copies
  subst isParts
  have offers := trip.offers (readsBack_of_storable sampleParts_storable)
  have last : lastPart? sampleParts "a.b" = some ("a.b.class", [2]) := by decide +kernel
  have answer := offers.answers [] "a.b"
  simp only [OfParts, last] at answer
  exact ⟨after, 3, entries, loaded, trip, answer⟩

/-! ### A unit that takes its successor along -/

/-- A container with one symbol next to that resolver, and a unit under the name of the artifact that
the container is to have. The unit keeps a file of passing use alive, and the path of that file is the
path of the artifact. -/
def besideTied : Session :=
  let output := durable passer (Staging.durableMessage "a.zip" 1000)
  let start := perform { files := ⟨[(["tmp"], .directory), (["tmp", "work"], .directory),
      (["tmp", "work", "a.zip"], .file (Zip.write [("A.class", [])]) 1000),
      (["tmp", "work", "b.zip"], .file (Zip.write []) 1000)], 0⟩ }
    (.openResolver "loader" { cacheDirectory := "cache" } Compiler.passthrough .archive none)
  ((start.trackHeld "file" 0 output).perform
    (.register 1 (Path.unitName output) "b.zip" (some 2))).perform (.letGo "file")

/-- A container is loaded in place of a unit whose file of passing use has the path of the artifact.
The load succeeds, but the artifact is deleted together with the unit that was replaced, and the
symbol cannot be read. -/
theorem loadContainer_tied :
    (besideTied.loadContainer 1 "main" "a.zip").2.toOption = some 5 ∧
      ((besideTied.loadContainer 1 "main" "a.zip").1.find (.unit 5) "A").2 =
        .failed (.file .notFound) := by
  decide +kernel

end Session

end Hotload
