import Hotload.CommandLine.Run
import Hotload.Proofs.EmptiedCaches
import Hotload.Proofs.LearntSymbols
import Hotload.Proofs.LoadedContainers
import Mathlib.Data.List.Find

/-!
# Calls that load containers

A call of the command line that loads containers prints a line for each, up to the first that cannot be
loaded. If all are loaded, it looks up names, and prints for each the unit that it comes from.

Every name comes from the container that, of those which have a part for it, stands last in the list of
the call. A container that is repeated is registered again and counts by its last place, so it goes
before those between. That a look-up remembers what it found does not change any later answer.
-/

namespace Hotload

open Files

/-! ## Lists of names -/

namespace Registry

/-- Of the names of a list, each taken once at its last place, the last one with a property is the last
one of the whole list. -/
theorem find?_dedup (names : List String) (good : String → Bool) :
    names.dedup.reverse.find? good = names.reverse.find? good := by
  induction names using List.reverseRecOn with
  | nil => rfl
  | append_singleton names name inductionHypothesis =>
    rw [dedup_concat, List.reverse_append, List.reverse_append, List.reverse_singleton,
      List.singleton_append, List.singleton_append, List.find?_cons, List.find?_cons]
    cases holds : good name with
    | true => rfl
    | false =>
      dsimp only
      rw [← List.filter_reverse, List.find?_filter, ← inductionHypothesis]
      congr 1
      funext other
      by_cases same : other = name
      · simp [same, holds]
      · simp [same]

section

variable {things : List String} {nameOf : String → String}
  (own : ∀ first ∈ things, ∀ second ∈ things, nameOf first = nameOf second → first = second)
  (good : String → Bool)
include own

/-- Where things have names of their own, a thing with a property is told by its name. -/
theorem any_named {thing : String} (member : thing ∈ things) :
    (things.any fun other => nameOf other == nameOf thing && good other) = good thing := by
  rw [Bool.eq_iff_iff]
  simp only [List.any_eq_true, Bool.and_eq_true, beq_iff_eq]
  constructor
  · rintro ⟨other, there, same, holds⟩
    rwa [own other there thing member same] at holds
  · exact fun holds => ⟨thing, member, rfl, holds⟩

/-- The last name of a thing with a property is that of the last thing with it. -/
theorem find?_named :
    (things.map nameOf).dedup.reverse.find?
        (fun name => things.any fun thing => nameOf thing == name && good thing) =
      (things.reverse.find? good).map nameOf := by
  rw [find?_dedup, ← List.map_reverse, List.find?_map]
  congr 1
  exact List.find?_congr fun thing listed => any_named own good (List.mem_reverse.mp listed)

end

end Registry

/-- The container that a name comes from: the last one of those that have a part for it. -/
def sourceOf? (files : Files) (containers : List String) (name : String) : Option String :=
  containers.reverse.find? fun container => (lastPart? (partsIn files container) name).isSome

namespace Session

/-! ## What the resolver answers -/

/-- A resolver that has nobody to ask but its units answers as the first hit among them. -/
theorem reply_units {session : Session} {id : Nat} {resolver : Resolver}
    (present : session.resolvers.get? id = some resolver) (unlearnt : resolver.defined = [])
    (orphan : resolver.parent = none) (alone : resolver.localUnit = none) (asked : String) :
    session.reply asked (.resolver id) = Answer.firstHit
      (resolver.registry.recentFirst.map fun unit => session.reply asked (.unit unit)) := by
  rw [reply_eq, replyOf, present]
  dsimp only
  rw [definedReply, unlearnt, orphan, alone]
  generalize resolver.registry.recentFirst.map (fun unit => session.reply asked (.unit unit)) = units
  have passed : Answer.firstHit (.absent :: .absent :: units ++ [.absent]) =
      Answer.firstHit (units ++ [.absent]) := rfl
  refine passed.trans ?_
  rw [Answer.firstHit_append]
  split
  · next missed => exact (Answer.firstHit_eq_absent_of_isMiss units missed).symm
  · rfl

/-- A search that takes the first of several answers, where each is a symbol of the unit with a name or
nothing, finds the first name that has the symbol. -/
theorem firstHit_named {answers : List Answer} {names : List String} {good : String → Bool}
    {asked : String} (each : List.Forall₂ (fun name answer => if good name then
      ∃ body serial, answer = .found ⟨asked, name, body, serial⟩ else answer = .absent) names answers) :
    match names.find? good with
    | some name => ∃ body serial, Answer.firstHit answers = .found ⟨asked, name, body, serial⟩
    | none => Answer.firstHit answers = .absent := by
  induction each with
  | nil => rfl
  | @cons name answer _ _ head _ inductionHypothesis =>
    rw [List.find?_cons]
    cases holds : good name with
    | true =>
      rw [holds, if_pos rfl] at head
      obtain ⟨body, serial, rfl⟩ := head
      exact ⟨body, serial, rfl⟩
    | false =>
      rw [holds, if_neg (by simp)] at head
      subst head
      exact inductionHypothesis

section

variable {tenancy : Tenancy} {containers : List String} {session : Session}

/-- The artifacts of all containers read back. -/
def AllReadBack (files : Files) (containers : List String) : Prop :=
  ∀ container ∈ containers, Zip.ReadsBack (partsIn files container)

/-- The resolver was opened to copy, without anyone to ask but its own units. -/
structure Copies (resolver : Resolver) : Prop where
  passes : resolver.compiler = Compiler.passthrough
  archive : resolver.platform = .archive
  orphan : resolver.parent = none
  alone : resolver.localUnit = none
  unlearnt : resolver.defined = []
  unfailed : resolver.hasFailed = false
  empty : resolver.registry = []

variable (loaded : Loaded tenancy containers session) (copies : Copies tenancy.resolver)
  (unlike : Unlike session.files containers) (readBack : AllReadBack session.files containers)
include loaded copies unlike readBack

/-- Every unit in the registry offers the parts of a container, the one that it is named for. -/
theorem Loaded.offers {registry : Registry Nat}
    (made : AllMade tenancy containers session registry) {entry : String × Nat}
    (member : entry ∈ registry) :
    ∃ container ∈ containers, unitFor tenancy.resolver.staging session.files container = entry.1 ∧
      ∀ asked, OfParts (partsIn session.files container) entry.1 asked
        (session.reply asked (.unit entry.2)) := by
  obtain ⟨unit, there, named, container, listed, output, path, made⟩ := made entry member
  obtain ⟨parts, isList, restores⟩ := readBack container listed
  have isRead := loaded.artifact unlike copies.passes copies.archive listed path made
  have bound := made.bound
  rw [copies.archive] at bound
  have offering : Offering session entry.2 parts (partsIn session.files container) unit := by
    refine ⟨there, made.parent.trans copies.orphan, UnitContent.index_of_read isRead isList bound, ?_,
      ?_⟩
    · rw [made.artifact]
      exact isRead
    · intro asked symbol known
      rw [made.unasked] at known
      cases known
  refine ⟨container, listed, ?_, fun asked => ?_⟩
  · rw [unitFor, path, ← named, made.named]
  · rw [← named]
    exact (offering.find isList restores asked).1

/-- The resolver answers with the unit of the container that a name comes from, or with nothing if there
is none. -/
theorem Loaded.reply (asked : String) :
    match sourceOf? session.files containers asked with
    | some container => ∃ body serial, session.reply asked (.resolver tenancy.id) =
        .found ⟨asked, unitFor tenancy.resolver.staging session.files container, body, serial⟩
    | none => session.reply asked (.resolver tenancy.id) = .absent := by
  obtain ⟨busy, registry, held, present, names, made⟩ := loaded.stocked
  have own : ∀ first ∈ containers, ∀ second ∈ containers,
      unitFor tenancy.resolver.staging session.files first =
        unitFor tenancy.resolver.staging session.files second → first = second :=
    fun first left second right same => loaded.unitFor_inj unlike left right same
  have last := Registry.find?_named own fun container =>
    (lastPart? (partsIn session.files container) asked).isSome
  have each : List.Forall₂ (fun name answer =>
      if containers.any fun container =>
        unitFor tenancy.resolver.staging session.files container == name &&
          (lastPart? (partsIn session.files container) asked).isSome
      then ∃ body serial, answer = .found ⟨asked, name, body, serial⟩ else answer = .absent)
      (Registry.names registry).reverse
      ((Registry.recentFirst registry).map fun unit => session.reply asked (.unit unit)) := by
    rw [Registry.names, Registry.recentFirst, ← List.map_reverse, ← List.map_reverse, List.map_map,
      List.forall₂_map_left_iff, List.forall₂_map_right_iff]
    refine List.forall₂_same.mpr fun entry listed => ?_
    obtain ⟨container, member, named, answers⟩ :=
      loaded.offers copies unlike readBack made (List.mem_reverse.mp listed)
    have answer := answers asked
    rw [← named, Registry.any_named own (fun container =>
      (lastPart? (partsIn session.files container) asked).isSome) member]
    rw [← named] at answer
    unfold OfParts at answer
    cases part : lastPart? (partsIn session.files container) asked with
    | none =>
      rw [part] at answer
      rwa [Option.isSome_none, if_neg (by simp)]
    | some last =>
      rw [part] at answer
      obtain ⟨serial, found⟩ := answer
      rw [Option.isSome_some, if_pos rfl]
      exact ⟨_, serial, found⟩
  rw [reply_units present copies.unlearnt copies.orphan copies.alone]
  have hit := firstHit_named each
  rw [names, last] at hit
  unfold sourceOf?
  cases found : containers.reverse.find? fun container =>
      (lastPart? (partsIn session.files container) asked).isSome with
  | none =>
    rw [found] at hit
    exact hit
  | some container =>
    rw [found] at hit
    exact hit

omit unlike readBack in
/-- The resolver and its units are there, and they ask no one else. -/
theorem Loaded.intact : ∃ asked : Loader → Prop, Intact session session.files asked ∧
    asked (.resolver tenancy.id) := by
  obtain ⟨busy, registry, held, present, names, made⟩ := loaded.stocked
  refine ⟨fun loader => loader = .resolver tenancy.id ∨ ∃ entry ∈ registry, loader = .unit entry.2,
    ⟨?_, ?_, ?_⟩, .inl rfl⟩
  · rintro loader (rfl | ⟨entry, listed, rfl⟩) other among
    · simp only [asks, present, copies.orphan, copies.alone, Option.toList_none, List.nil_append,
        List.append_nil, List.mem_map] at among
      obtain ⟨entry, listed, rfl⟩ := among
      exact .inr ⟨entry, listed, rfl⟩
    · obtain ⟨unit, there, _, _, _, _, _, isMade⟩ := made entry listed
      simp only [asks, there, Option.bind_some, isMade.parent, copies.orphan, Option.toList_none,
        List.not_mem_nil] at among
  · rintro id (impossible | ⟨entry, listed, same⟩)
    · cases impossible
    · obtain rfl := Loader.unit.inj same
      obtain ⟨unit, there, _, _, _, _, _, isMade⟩ := made entry listed
      obtain ⟨location, bytes, modified, shown⟩ := UnitContent.shown_of_bind isMade.bound
      exact ⟨unit, there, fun _ _ => ⟨_, isMade.artifact ▸ shown⟩⟩
  · rintro id (same | ⟨entry, _, impossible⟩)
    · obtain rfl := Loader.resolver.inj same
      exact ⟨_, present⟩
    · cases impossible

/-- A look-up, whatever was looked up before, gives the unit of the container that the name comes from,
or reports that there is none. -/
theorem Loaded.loadSymbol {asked : Loader → Prop} (intact : Intact session session.files asked)
    (member : asked (.resolver tenancy.id)) {later : Session}
    (informed : Informed asked session session.files later) (name : String) :
    match sourceOf? session.files containers name with
    | some container => ∃ symbol, (later.loadSymbol tenancy.id name).2 = .ok symbol ∧
        symbol.name = name ∧
          symbol.unit = unitFor tenancy.resolver.staging session.files container
    | none => (later.loadSymbol tenancy.id name).2 = .error (.notFound name) := by
  have reply := loaded.reply copies unlike readBack name
  have same := informed.learnt.reply intact (.refl _) informed.files name member
  rw [loadSymbol_result]
  cases source : sourceOf? session.files containers name with
  | some container =>
    rw [source] at reply
    obtain ⟨body, serial, found⟩ := reply
    obtain ⟨symbol, again, matching⟩ := same.found found
    rw [again]
    exact ⟨symbol, rfl, by rw [matching], by rw [matching]⟩
  | none =>
    rw [source] at reply
    rcases same with absent | ⟨_, _, found, _⟩
    · rw [absent, reply]
      rfl
    · rw [reply] at found
      cases found

end

/-- A look-up leaves what the search for the symbol leaves. -/
theorem loadSymbol_session (session : Session) (id : Nat) (name : String) :
    (session.loadSymbol id name).1 = (session.find (.resolver id) name).1 := by
  unfold loadSymbol
  split <;> next asked => rw [asked]

variable {id : Nat} {thread : Thread} {session last : Session} {containers rest : List String}

/-- Where one load of several fails, they are not all loaded. -/
theorem LoadsEach.not_failing {other : Session} {container : String} {error : LoadError}
    (before : LoadsEach id thread session containers last)
    (failed : (last.loadContainer id thread container).2 = .error error) :
    ¬ LoadsEach id thread session (containers ++ container :: rest) other := by
  intro all
  induction before with
  | none =>
    cases all with
    | next loaded _ =>
      rw [loaded] at failed
      cases failed
  | next loaded _ inductionHypothesis =>
    cases all with
    | next again others =>
      obtain rfl := (Prod.mk.inj (loaded.symm.trans again)).1
      exact inductionHypothesis failed others

end Session

namespace CommandLine

open Session

/-! ## What a call prints -/

/-- The line for a container that was loaded. -/
def loadedLine (container : String) : String :=
  "Loaded " ++ container ++ "\n"

/-- The lines for names that were found. -/
def foundLines (staging : Staging) (files : Files) (containers names : List String) : List String :=
  names.filterMap fun name => (sourceOf? files containers name).map fun container =>
    name ++ " -> " ++ unitFor staging files container ++ "\n"

/-- The names that come from no container. -/
def missingNames (files : Files) (containers names : List String) : List String :=
  names.filter fun name => (sourceOf? files containers name).isNone

/-- The lines for names that were not found. -/
def missingLines (missing : List String) : List String :=
  missing.map fun name => notFoundMessage name ++ "\n"

variable {id : Nat} {containers names : List String} {progress : Progress}

/-- Loading goes on up to the first container that fails. -/
theorem loadAll_cases (id : Nat) (containers : List String) (progress : Progress) :
    (∃ last, LoadsEach id callThread progress.session containers last ∧
      loadAll id containers progress = { progress with
        session := last
        output := progress.output ++ String.join (containers.map loadedLine) }) ∨
    ∃ before container rest last error, containers = before ++ container :: rest ∧
      LoadsEach id callThread progress.session before last ∧
      (last.loadContainer id callThread container).2 = .error error ∧
      loadAll id containers progress = { progress with
        session := (last.loadContainer id callThread container).1
        output := progress.output ++ String.join (before.map loadedLine)
        failure := some ("Failed to load " ++ container) } := by
  induction containers generalizing progress with
  | nil => exact .inl ⟨_, .none _, by simp [loadAll]⟩
  | cons container rest inductionHypothesis =>
    rcases result : progress.session.loadContainer id callThread container with
      ⟨session, error | number⟩
    · refine .inr ⟨[], container, rest, _, error, rfl, .none _, by rw [result], ?_⟩
      simp [loadAll, result]
    · have onward := inductionHypothesis { progress with
        session, output := progress.output ++ "Loaded " ++ container ++ "\n" }
      have step : loadAll id (container :: rest) progress = loadAll id rest { progress with
          session, output := progress.output ++ "Loaded " ++ container ++ "\n" } := by
        simp only [loadAll, result]
      rcases onward with
        ⟨last, others, all⟩ | ⟨before, first, after, last, error, split, others, failed, all⟩
      · refine .inl ⟨last, .next result others, ?_⟩
        rw [step, all]
        simp [loadedLine, String.append_assoc]
      · refine .inr ⟨container :: before, first, after, last, error, by rw [split]; rfl,
          .next result others, failed, ?_⟩
        rw [step, all]
        simp [loadedLine, String.append_assoc]

/-- Looking up names is quiet. -/
theorem findAll_quiet (id : Nat) (names : List String) (progress : Progress) :
    Quiet progress.session (findAll id names progress).1.session := by
  induction names generalizing progress with
  | nil => exact .refl _
  | cons name rest inductionHypothesis =>
    have quiet := quiet_follows.find progress.session (.resolver id) name
    rw [← loadSymbol_session] at quiet
    unfold findAll
    rcases result : progress.session.loadSymbol id name with ⟨found, ⟨missed | crash⟩ | symbol⟩
    all_goals
      rw [result] at quiet
      dsimp only at quiet ⊢
    · exact quiet.trans (inductionHypothesis { progress with session := found, diagnostics := _ })
    · exact quiet
    · exact quiet.trans (inductionHypothesis { progress with session := found, output := _ })

section

variable {tenancy : Tenancy} {session : Session} (loaded : Loaded tenancy containers session)
  (copies : Copies tenancy.resolver) (unlike : Unlike session.files containers)
  (readBack : AllReadBack session.files containers)
include loaded copies unlike readBack

/-- What looking up names prints. -/
theorem findAll_prints {asked : Loader → Prop} (intact : Intact session session.files asked)
    (member : asked (.resolver tenancy.id)) (names : List String) (progress : Progress)
    (informed : Informed asked session session.files progress.session) :
    ∃ later, Informed asked session session.files later ∧
      findAll tenancy.id names progress =
        ({ progress with
            session := later
            output := progress.output ++ String.join
              (foundLines tenancy.resolver.staging session.files containers names)
            diagnostics := progress.diagnostics ++ String.join
              (missingLines (missingNames session.files containers names)) },
          missingNames session.files containers names) := by
  induction names generalizing progress with
  | nil => exact ⟨_, informed, by simp [findAll, foundLines, missingNames, missingLines]⟩
  | cons name rest inductionHypothesis =>
    have result := loaded.loadSymbol copies unlike readBack intact member informed name
    have after := informed.find intact (.refl _) (.resolver tenancy.id) name
    rw [← loadSymbol_session] at after
    generalize isNext : progress.session.loadSymbol tenancy.id name = next at result after
    obtain ⟨found, answer⟩ := next
    cases source : sourceOf? session.files containers name with
    | some container =>
      rw [source] at result
      obtain ⟨symbol, rfl, named, unit⟩ := result
      obtain ⟨later, informs, onward⟩ := inductionHypothesis { progress with
        session := found
        output := progress.output ++ symbol.name ++ " -> " ++ symbol.unit ++ "\n" } after
      refine ⟨later, informs, ?_⟩
      have step : findAll tenancy.id (name :: rest) progress = findAll tenancy.id rest
          { progress with
            session := found
            output := progress.output ++ symbol.name ++ " -> " ++ symbol.unit ++ "\n" } := by
        simp only [findAll, isNext]
      rw [step, onward]
      simp [foundLines, missingNames, source, named, unit, String.append_assoc]
    | none =>
      rw [source] at result
      obtain rfl := result
      obtain ⟨later, informs, onward⟩ := inductionHypothesis { progress with
        session := found
        diagnostics := progress.diagnostics ++ notFoundMessage name ++ "\n" } after
      refine ⟨later, informs, ?_⟩
      simp only [findAll, isNext, ResolveError.message, onward]
      simp [foundLines, missingNames, missingLines, source, String.append_assoc]

end

/-- A call stopped at the first container that could not be loaded. -/
structure Stopped (start : Session) (id : Nat) (containers : List String) (report : Report) :
    Prop where
  stops : ∃ before container rest last error, containers = before ++ container :: rest ∧
    LoadsEach id callThread start before last ∧
    (last.loadContainer id callThread container).2 = .error error ∧
    report.output = String.join (before.map loadedLine) ∧
    report.diagnostics = "Error: Failed to load " ++ container ++ "\n"
  exitCode : report.exitCode = 1

/-- A call loaded all containers, and printed for each name the unit that it comes from. -/
structure Answered (start : Session) (id : Nat) (staging : Staging) (containers names : List String)
    (report : Report) : Prop where
  loads : ∃ last, LoadsEach id callThread start containers last
  output : report.output = String.join (containers.map loadedLine) ++
    String.join (foundLines staging report.files containers names)
  diagnostics : report.diagnostics =
    String.join (missingLines (missingNames report.files containers names)) ++
      if missingNames report.files containers names = [] then ""
      else "Error: Unresolved symbols: " ++
        ", ".intercalate (missingNames report.files containers names) ++ "\n"
  exitCode : report.exitCode = if missingNames report.files containers names = [] then 0 else 1

variable {files : Files} {config : Config} {opened : Session}

/-- The resolver of a call copies, and asks no one but its units. -/
theorem openResolver_copies (opens : ({ files } : Session).openResolver config Compiler.passthrough
      .archive none = (opened, .ok id)) :
    ∃ resolver, opened.resolvers.get? id = some resolver ∧ Copies resolver ∧
      resolver.staging = Staging.ofConfig config := by
  have vacant : (({ files } : Session).prepare (Staging.ofConfig config).layout none).1.resolvers =
      [] := by
    unfold prepare
    split <;> rfl
  unfold openResolver at opens
  split at opens
  · cases opens
  · dsimp only at opens
    split at opens
    · cases opens
    · next prepared prepares =>
      rw [prepares] at vacant
      obtain ⟨rfl, isNumber⟩ := Prod.mk.inj opens
      obtain rfl := Except.ok.inj isNumber
      have given (number : Nat) (resolver : Resolver) :
          (prepared.resolvers.add number resolver).get? number = some resolver := by
        rw [vacant, Table.get?_add, if_pos rfl]
        rfl
      exact ⟨_, given _ _, ⟨rfl, rfl, rfl, rfl, rfl, rfl, rfl⟩, rfl⟩

/-- The resolver of a call is opened with nothing loaded, unless its cache directory is in the way
of itself or artifacts go into a subdirectory. -/
theorem openResolver_loaded {place : Location} (opens : ({ files } : Session).openResolver config
      Compiler.passthrough .archive none = (opened, .ok id))
    (sited : Sited (config.home place) files)
    (direct : ∀ resolver : Resolver, resolver.staging = Staging.ofConfig config →
      Direct (config.home place) resolver) :
    ∃ tenancy : Tenancy, tenancy.id = id ∧ tenancy.resolver.staging = Staging.ofConfig config ∧
      Copies tenancy.resolver ∧ Loaded tenancy [] (opened.hold holder (.loader (.resolver id))) := by
  obtain ⟨resolver, present, copies, staging⟩ := openResolver_copies opens
  have layout : resolver.layout = (config.home place).layout := by
    rw [Resolver.layout, staging]
    rfl
  let tenancy : Tenancy :=
    ⟨config.home place, id, holder, resolver, opened.fresh, layout, direct resolver staging⟩
  have opening : Opening tenancy { files } config Compiler.passthrough .archive none opened :=
    { opens, sited
      noResolver := rfl
      home := rfl
      resolver := present
      opened := rfl
      wired := wired_start files
      numbered :=
        { temporaries := fun _ given => by cases given
          referred := fun _ impossible => by cases impossible }
      foreign := fun _ _ given => by cases given }
  exact ⟨tenancy, rfl, staging, copies, opening.loaded copies.empty⟩

/-- What a call reports that got so far, once it has let go of its resolver. -/
def Progress.report (progress : Progress) : Report :=
  let files := (progress.session.letGo holder).files
  match progress.failure with
  | none => ⟨files, 0, progress.output, progress.diagnostics⟩
  | some failure =>
    ⟨files, 1, progress.output, progress.diagnostics ++ "Error: " ++ failure ++ "\n"⟩

/-- Letting go of a name leaves the tree alone where there are no files of passing use. -/
theorem letGo_files {session : Session} (vacant : session.temporaries = []) (name : String) :
    (session.letGo name).files = session.files := by
  unfold letGo
  exact settle_files_of_none vacant

/-- A call that loads containers does so with the resolver that it opens. -/
theorem run_eq {arguments : List String} {options : Options}
    (parsed : parse arguments = .run options (.load containers names))
    (archive : options.isNative = false) (configured : configFor options files = .ok config)
    (passes : config.compiler = none) (opens : ({ files } : Session).openResolver config
      Compiler.passthrough .archive none = (opened, .ok id)) :
    run arguments files = (runLoad id containers names
      { session := opened.hold holder (.loader (.resolver id)) }).report := by
  have compiler : Compiler.ofConfig Shell.runProgram config = Compiler.passthrough := by
    unfold Compiler.ofConfig
    rw [passes]
  unfold run
  rw [parsed]
  dsimp only [runCommand]
  unfold withResolver
  rw [configured]
  dsimp only
  rw [compiler, archive, if_neg (by simp), opens]
  rfl

theorem Progress.report_files (progress : Progress) :
    progress.report.files = (progress.session.letGo holder).files := by
  unfold Progress.report
  split <;> rfl

/-- The check of the compiles changes nothing but the failure. -/
theorem checkCompiles_session (id : Nat) (progress : Progress) :
    (checkCompiles id progress).session = progress.session := by
  unfold checkCompiles
  split <;> rfl

/-- The check of the compiles passes where no compile failed. -/
theorem checkCompiles_unfailed {progress : Progress}
    (unfailed : (progress.session.resolvers.get? id).any (·.hasFailed) = false) :
    checkCompiles id progress = progress := by
  unfold checkCompiles
  rw [unfailed, Bool.and_false, if_neg (by simp)]

/-- A call in which a container fails stops there. -/
theorem runLoad_stopped {start last : Session} {before rest : List String} {container : String}
    {error : LoadError} (names : List String) (others : LoadsEach id callThread start before last)
    (failed : (last.loadContainer id callThread container).2 = .error error)
    (loads : loadAll id (before ++ container :: rest) { session := start } =
      { session := (last.loadContainer id callThread container).1
        output := "" ++ String.join (before.map loadedLine)
        failure := some ("Failed to load " ++ container) }) :
    Stopped start id (before ++ container :: rest)
      (runLoad id (before ++ container :: rest) names { session := start }).report := by
  have stops : runLoad id (before ++ container :: rest) names { session := start } =
      loadAll id (before ++ container :: rest) { session := start } := by
    unfold runLoad
    rw [loads]
    rfl
  rw [stops, loads]
  refine ⟨⟨before, container, rest, last, error, rfl, others, failed, String.empty_append, ?_⟩, rfl⟩
  dsimp only [Progress.report]
  rw [String.empty_append, ← String.append_assoc]
  rfl

/-- A call in which no container fails looks up all names. -/
theorem runLoad_answered {tenancy : Tenancy} {start last : Session}
    (each : LoadsEach tenancy.id callThread start containers last)
    (loads : loadAll tenancy.id containers { session := start } =
      { session := last, output := "" ++ String.join (containers.map loadedLine) })
    (loaded : Loaded tenancy containers last) (copies : Copies tenancy.resolver)
    {report : Report}
    (reports : (runLoad tenancy.id containers names { session := start }).report = report)
    (unlike : Unlike report.files containers) (readBack : AllReadBack report.files containers) :
    Answered start tenancy.id tenancy.resolver.staging containers names report := by
  have searches : runLoad tenancy.id containers names { session := start } =
      let searched := findAll tenancy.id names
        { session := last, output := "" ++ String.join (containers.map loadedLine) }
      let checked := checkCompiles tenancy.id searched.1
      if checked.failure.isNone && !searched.2.isEmpty then
        { checked with failure := some ("Unresolved symbols: " ++ ", ".intercalate searched.2) }
      else checked := by
    unfold runLoad
    rw [loads]
    rfl
  have quiet : Quiet last (runLoad tenancy.id containers names { session := start }).session := by
    have looked := findAll_quiet tenancy.id names
      { session := last, output := "" ++ String.join (containers.map loadedLine) }
    rw [searches]
    dsimp only
    split
    · dsimp only
      rwa [checkCompiles_session]
    · rwa [checkCompiles_session]
  have files : report.files = last.files := by
    rw [← reports, Progress.report_files, letGo_files (quiet.temporaries.trans loaded.vacant)]
    exact quiet.files
  rw [files] at unlike readBack
  obtain ⟨asked, intact, member⟩ := loaded.intact copies
  obtain ⟨later, informed, prints⟩ := findAll_prints loaded copies unlike readBack intact member names
    { session := last, output := "" ++ String.join (containers.map loadedLine) }
    ⟨.refl asked last, .refl last.files⟩
  -- A look-up never marks the resolver, so the check of the compiles passes.
  obtain ⟨busy, registry, _, present, _⟩ := loaded.stocked
  obtain ⟨_, _, stays, _⟩ := informed.learnt.resolvers tenancy.id _ present
  have unfailed : (later.resolvers.get? tenancy.id).any (·.hasFailed) = false := by
    rw [stays, Option.any_some]
    exact copies.unfailed
  rw [prints] at searches
  dsimp only at searches
  rw [checkCompiles_unfailed (by exact unfailed)] at searches
  have answers : report.output = String.join (containers.map loadedLine) ++
        String.join (foundLines tenancy.resolver.staging last.files containers names) ∧
      report.diagnostics = String.join (missingLines (missingNames last.files containers names)) ++
        (if missingNames last.files containers names = [] then ""
        else "Error: Unresolved symbols: " ++
          ", ".intercalate (missingNames last.files containers names) ++ "\n") ∧
      report.exitCode = if missingNames last.files containers names = [] then 0 else 1 := by
    rw [← reports, searches, String.empty_append, String.empty_append]
    generalize missingNames last.files containers names = missing
    cases missing with
    | nil => exact ⟨rfl, String.append_empty.symm, rfl⟩
    | cons first rest =>
      have worded : "Error: Unresolved symbols: " = "Error: " ++ "Unresolved symbols: " := rfl
      refine ⟨rfl, ?_, rfl⟩
      rw [if_neg (List.cons_ne_nil first rest), worded]
      calc
        _ = String.join (missingLines (first :: rest)) ++ "Error: " ++
            ("Unresolved symbols: " ++ ", ".intercalate (first :: rest)) ++ "\n" := rfl
        _ = _ := by simp only [String.append_assoc]
  obtain ⟨output, diagnostics, exitCode⟩ := answers
  rw [← files] at output diagnostics exitCode
  exact ⟨⟨last, each⟩, output, diagnostics, exitCode⟩

/-- A call that loads containers with the compiler that passes archives on, in a cache directory that it
has opened. It prints a line for each container up to the first that fails, and stops there. If none
fails, it prints for each name the unit of the container that it comes from, or that there is none. It
succeeds if all containers were loaded and all names come from one.

The cache directory must not be in the way of itself, or else what stood there is taken for artifacts of
this call. The containers have no two artifacts with one digest, and archives of what they hold can be
read back. -/
theorem run_load {arguments : List String} {options : Options} {place : Location} {report : Report}
    (parsed : parse arguments = .run options (.load containers names))
    (archive : options.isNative = false) (configured : configFor options files = .ok config)
    (passes : config.compiler = none) (opens : ({ files } : Session).openResolver config
      Compiler.passthrough .archive none = (opened, .ok id))
    (sited : Sited (config.home place) files)
    (direct : ∀ resolver : Resolver, resolver.staging = Staging.ofConfig config →
      Direct (config.home place) resolver)
    (reports : run arguments files = report) (unlike : Unlike report.files containers)
    (readBack : AllReadBack report.files containers) :
    let start := opened.hold holder (.loader (.resolver id))
    (Stopped start id containers report ∨
      Answered start id (Staging.ofConfig config) containers names report) ∧
    (report.exitCode = 0 ↔ (∃ last, LoadsEach id callThread start containers last) ∧
      ∀ name ∈ names, (sourceOf? report.files containers name).isSome) := by
  intro start
  obtain ⟨tenancy, rfl, staging, copies, begun⟩ := openResolver_loaded opens sited direct
  rw [run_eq parsed archive configured passes opens] at reports
  rcases loadAll_cases tenancy.id containers { session := start } with
    ⟨last, each, loads⟩ | ⟨before, container, rest, last, error, rfl, others, failed, loads⟩
  · have faithful : Faithful tenancy.resolver.compiler :=
      copies.passes ▸ Compiler.passthrough_through
    have answered := runLoad_answered each loads (each.loaded faithful begun) copies reports unlike
      readBack
    rw [staging] at answered
    refine ⟨.inr answered, ?_⟩
    have found : missingNames report.files containers names = [] ↔
        ∀ name ∈ names, (sourceOf? report.files containers name).isSome := by
      rw [missingNames, List.filter_eq_nil_iff]
      exact forall₂_congr fun name _ => by rw [Option.isNone_iff_eq_none, Option.isSome_iff_ne_none]
    rw [answered.exitCode, ← found]
    split
    · next all => exact ⟨fun _ => ⟨⟨last, each⟩, all⟩, fun _ => rfl⟩
    · next missing => exact ⟨(by cases ·), fun whole => absurd whole.2 missing⟩
  · have stopped := runLoad_stopped names others failed loads
    rw [reports] at stopped
    refine ⟨.inl stopped, ?_⟩
    rw [stopped.exitCode]
    refine ⟨(by cases ·), ?_⟩
    rintro ⟨⟨_, all⟩, _⟩
    exact absurd all (others.not_failing failed)

/-! ### Two calls -/

/-- Two containers that both have a part for one name. -/
def besideTwo : Files :=
  ⟨[(["tmp"], .directory), (["tmp", "work"], .directory),
    (["tmp", "work", "a.zip"], .file (Zip.write [("A.class", [1])]) 1000),
    (["tmp", "work", "b.zip"], .file (Zip.write [("A.class", [2])]) 1000)], 0⟩

/-- A call that loads the first of them again after the second. -/
def repeatedCall : Report :=
  run ["load", "a.zip", "b.zip", "a.zip", "-r", "A", "-r", "C"] besideTwo

/-- The name comes from the first, and the containers are as they were. -/
theorem repeatedCall_eq :
    repeatedCall.output = "Loaded a.zip\nLoaded b.zip\nLoaded a.zip\n" ++
      "A -> 5c677cc68b4f05f8e1c79c774835c78a0d530c86cb9bfb6154a85f70db8b9ac3\n" ∧
    repeatedCall.diagnostics = "Symbol not found: C\nError: Unresolved symbols: C\n" ∧
    repeatedCall.exitCode = 1 ∧
    (repeatedCall.files.modified "a.zip").toOption = some 1000 ∧
    (repeatedCall.files.modified "b.zip").toOption = some 1000 ∧
    partsIn repeatedCall.files "a.zip" = [("A.class", [1])] ∧
    partsIn repeatedCall.files "b.zip" = [("A.class", [2])] := by
  decide +kernel

/-- A call loads `a.zip`, `b.zip` and `a.zip` again and asks for `A` and `C`. It answers as it has
to: it prints for `A` the unit of `a.zip`, which was loaded last, and it fails, since `C` comes from
neither container. -/
theorem run_load_repeated : ∃ opened,
    ({ files := besideTwo } : Session).openResolver {} Compiler.passthrough .archive none =
      (opened, .ok 1) ∧
    Answered (opened.hold holder (.loader (.resolver 1))) 1 (Staging.ofConfig {})
      ["a.zip", "b.zip", "a.zip"] ["A", "C"] repeatedCall ∧
    repeatedCall.output = "Loaded a.zip\nLoaded b.zip\nLoaded a.zip\n" ++
      "A -> 5c677cc68b4f05f8e1c79c774835c78a0d530c86cb9bfb6154a85f70db8b9ac3\n" ∧
    repeatedCall.exitCode = 1 := by
  obtain ⟨output, diagnostics, exitCode, first, second, firstParts, secondParts⟩ := repeatedCall_eq
  have listed : ∀ container ∈ ["a.zip", "b.zip", "a.zip"],
      container = "a.zip" ∨ container = "b.zip" := by decide
  have modified : ∀ container ∈ ["a.zip", "b.zip", "a.zip"],
      repeatedCall.files.modified container = .ok 1000 := by
    intro container member
    rcases listed container member with rfl | rfl
    · exact ok_of_toOption first
    · exact ok_of_toOption second
  have unlike : Unlike repeatedCall.files ["a.zip", "b.zip", "a.zip"] := by
    intro left leftListed right rightListed early late isEarly isLate same
    obtain rfl := Except.ok.inj ((modified left leftListed).symm.trans isEarly)
    obtain rfl := Except.ok.inj ((modified right rightListed).symm.trans isLate)
    have different : Staging.digest (Staging.durableMessage "a.zip" 1000) ≠
        Staging.digest (Staging.durableMessage "b.zip" 1000) := by decide +kernel
    rcases listed left leftListed with rfl | rfl <;> rcases listed right rightListed with rfl | rfl
    · rfl
    · exact absurd same different
    · exact absurd same.symm different
    · rfl
  have readBack : AllReadBack repeatedCall.files ["a.zip", "b.zip", "a.zip"] := by
    intro container member
    rcases listed container member with rfl | rfl
    · rw [firstParts]
      exact readsBack_of_storable (by constructor <;> decide +kernel)
    · rw [secondParts]
      exact readsBack_of_storable (by constructor <;> decide +kernel)
  have parsed : parse ["load", "a.zip", "b.zip", "a.zip", "-r", "A", "-r", "C"] =
      .run {} (.load ["a.zip", "b.zip", "a.zip"] ["A", "C"]) := by decide +kernel
  have opens : ({ files := besideTwo } : Session).openResolver {} Compiler.passthrough .archive none =
      (_, .ok 1) := rfl
  have sited : Sited (({} : Config).home copierHome.place) besideTwo :=
    copierHome_missing (by decide) rfl (by decide) (by decide +kernel)
  have direct : ∀ resolver : Resolver, resolver.staging = Staging.ofConfig {} →
      Direct (({} : Config).home copierHome.place) resolver := by
    refine fun resolver usual => direct_of_whole fun extension named => ?_
    rw [usual] at named
    cases named
  obtain ⟨stopped | answered, _⟩ :=
    run_load parsed rfl rfl rfl opens sited direct rfl unlike readBack
  · obtain ⟨_, container, _, _, _, _, _, _, _, failure⟩ := stopped.stops
    have initial := congrArg (·.toList.head?) (failure.symm.trans diagnostics)
    simp at initial
  · exact ⟨_, opens, answered, output, exitCode⟩

/-- A directory that holds what looks like the artifact of a container without entries. -/
def besideStale : Files :=
  ⟨[(["tmp"], .directory), (["tmp", "work"], .directory),
    (["tmp", "work", "a.zip"], .file (Zip.write []) 1000), (["tmp", "work", "cache"], .directory),
    (["tmp", "work", "cache", Staging.digest "a.zip_1000"],
      .file (Zip.write [("Z.class", [1])]) 0)], 0⟩

/-- A call that names that directory by a path which leads through a directory that is missing. -/
def staleCall : Report :=
  run ["--cache-dir", "new/../cache", "load", "a.zip", "-r", "Z"] besideStale

/-- A call names its cache directory by a path through a directory that is missing. The cache
directory is not emptied, and the call prints a unit for a name that no container has. -/
theorem run_load_stale :
    staleCall.output = "Loaded a.zip\n" ++
      "Z -> 5c677cc68b4f05f8e1c79c774835c78a0d530c86cb9bfb6154a85f70db8b9ac3\n" ∧
    staleCall.exitCode = 0 ∧ partsIn staleCall.files "a.zip" = [] ∧
    sourceOf? staleCall.files ["a.zip"] "Z" = none := by
  decide +kernel

end CommandLine

end Hotload
