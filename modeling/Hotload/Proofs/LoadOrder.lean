import Hotload.Proofs.LoadArtifacts

/-!
# Loads in any order

However loads interleave, the compiler of a resolver works for one of them at a time, it is called
only for an artifact that is missing or empty, and of all loads with one artifact at most one gets a
compiled artifact registered. Loads that look for the artifact afterwards find it, call no compiler
and register it as it is.

What is said of the past is read off the events. A load that found an artifact standing is followed
from that event on: until it has registered the artifact it is in the phase `reusing`, and nothing
takes the artifact away from it.
-/

namespace Hotload

open Files (SameSkeleton Plain Apart Touches)

namespace Session

variable {id : Nat} {holder : String} {resolver : Resolver}

/-- A pair of events that one more event completes was there before, or ends with the new one. -/
theorem pair_sublist_concat {events : List LoadEvent} {first second new : LoadEvent}
    (pair : List.Sublist [first, second] (events ++ [new])) :
    List.Sublist [first, second] events ∨ first ∈ events ∧ second = new := by
  obtain ⟨front, back, split, early, late⟩ := List.sublist_append_iff.mp pair
  match front, back, split with
  | [], _, rfl => exact absurd late.length_le (by simp)
  | [_], _, rfl =>
    exact .inr ⟨List.singleton_sublist.mp early, by simpa using late⟩
  | [_, _], _, rfl => exact .inl early

/-- What is noted of a step of a load alone. -/
theorem noteAdvance_cases (session : Session) (load : Nat) (phase next : Phase) :
    session.noteAdvance load phase next = [] ∨
      (∃ output, phase = .entered output ∧ session.noteAdvance load phase next =
        [.looked load output (session.outputSize output)]) ∨
      (∃ output unit, phase = .reusing output ∧ next = .leaving (.ok unit) ∧
        session.noteAdvance load phase next =
          [.bound load output (session.files.read output) unit false]) ∨
      ∃ output archive unit, phase = .registering output archive ∧
        session.noteAdvance load phase next =
          [.bound load output (session.files.read output) unit true] := by
  unfold noteAdvance
  split
  · exact .inr (.inl ⟨_, rfl, rfl⟩)
  · exact .inr (.inr (.inl ⟨_, _, rfl, rfl, rfl⟩))
  · exact .inr (.inr (.inr ⟨_, _, _, rfl, rfl⟩))
  · exact .inl rfl

/-- An artifact that stands has a length. -/
theorem Stands.shownLength {files : Files} {output : String}
    {artifact : Except FileError Bytes} (stands : Stands resolver files output artifact) :
    files.shownLength output ≠ 0 := by
  obtain ⟨location, bytes, modified, shown, nonempty, _⟩ := stands.shown
  simpa [Files.shownLength, shown] using nonempty

/-- An artifact that stands belongs to no load. -/
theorem Stands.not_apart {files : Files} {output : String}
    {artifact : Except FileError Bytes} (stands : Stands resolver files output artifact) :
    ¬ Apart files output output := by
  obtain ⟨location, bytes, modified, shown, _⟩ := stands.shown
  have place := (Files.stands_of_shown shown).1
  have target : files.target? output = some location := by
    unfold Files.target?
    rw [Files.named_of_shown shown]
    exact place
  exact fun apart => apart location target place

/-- Registering an artifact that stands succeeds and binds what was registered before. -/
theorem Stands.reuse {session : Session} {output : String} {artifact : Except FileError Bytes}
    (stands : Stands resolver session.files output artifact)
    (ready : Ready session id holder resolver) :
    (∃ unit, (session.reuse id output).2 = .leaving (.ok unit)) ∧
      session.files.read output = artifact := by
  obtain ⟨location, bytes, modified, shown, _, rfl⟩ := stands.shown
  obtain ⟨content, bound⟩ := stands.binds
  obtain ⟨now, there, _, platform⟩ := ready.opened
  rw [← platform] at bound
  have sized := UnitContent.artifactSize_of_shown shown
  refine ⟨⟨(session.enlist id (unitOf now (Path.unitName output) output none content)).2, ?_⟩,
    Files.read_of_shown shown⟩
  unfold Session.reuse Session.register
  simp only [there, sized, bound]

/-! ## A load that found an artifact standing -/

/-- A load found an artifact that was registered before. It has called no compiler, and it is going to
register the artifact as it was, or has done so. -/
structure Reuses (state : Loads) (load : Nat) (output : String)
    (artifact : Except FileError Bytes) : Prop where
  uncompiled : ∀ other length, .invoked load other length ∉ state.events
  phase : ∃ found, state.loads[load]? = some found ∧ (found.phase = .reusing output ∨
    ∃ unit, (found.phase = .leaving (.ok unit) ∨ found.phase = .ended (.ok unit)) ∧
      .bound load output artifact unit false ∈ state.events)

/-- The phases in which a load may be that found an artifact standing. -/
theorem Reuses.phase_cases {state : Loads} {load : Nat} {output : String}
    {artifact : Except FileError Bytes} (reuses : Reuses state load output artifact)
    {thread : Thread} {container : String} {phase : Phase}
    (there : state.loads[load]? = some ⟨thread, container, phase⟩) :
    phase = .reusing output ∨
      ∃ unit, (phase = .leaving (.ok unit) ∨ phase = .ended (.ok unit)) ∧
        .bound load output artifact unit false ∈ state.events := by
  obtain ⟨found, now, cases⟩ := reuses.phase
  rw [there] at now
  obtain rfl := Option.some.inj now
  exact cases

/-- A load that found an artifact standing is none that moves from another phase than those. -/
theorem Reuses.other {state : Loads} {load later : Nat} {output : String}
    {artifact : Except FileError Bytes} (reuses : Reuses state later output artifact)
    {thread : Thread} {container : String} {phase : Phase}
    (there : state.loads[load]? = some ⟨thread, container, phase⟩)
    (busy : phase ≠ .reusing output) (under : ∀ result, phase ≠ .leaving result)
    (going : ∀ result, phase ≠ .ended result) : later ≠ load := by
  rintro rfl
  rcases reuses.phase_cases there with isReusing | ⟨unit, isLeaving | isEnded, _⟩
  · exact busy isReusing
  · exact under _ isLeaving
  · exact going _ isEnded

/-- A load that moves on changes nothing for a load that reuses, unless it is the same one. -/
theorem Reuses.apart {state : Loads} {load later : Nat} {output : String}
    {artifact : Except FileError Bytes} (reuses : Reuses state later output artifact)
    {old new : Load} (there : state.loads[load]? = some old) (away : later ≠ load)
    {more : List LoadEvent} (about : ∀ event ∈ more, event.load = load) (session : Session)
    (isLocked : Bool) :
    Reuses ⟨session, isLocked, state.loads.set load new, state.events ++ more⟩ later output
      artifact where
  uncompiled := by
    intro other length listed
    rcases List.mem_append.mp listed with earlier | noted
    · exact reuses.uncompiled other length earlier
    · exact away (about _ noted)
  phase := by
    obtain ⟨found, now, cases⟩ := reuses.phase
    refine ⟨found, by rw [getElem?_moved there, if_neg away, now], ?_⟩
    rcases cases with isReusing | ⟨unit, isBehind, bound⟩
    · exact .inl isReusing
    · exact .inr ⟨unit, isBehind, List.mem_append_left _ bound⟩

/-- Another load that moves on while nothing is noted of it changes nothing for a load that reuses.
-/
theorem Reuses.apart_silent {state : Loads} {load later : Nat} {output : String}
    {artifact : Except FileError Bytes} (reuses : Reuses state later output artifact)
    {old new : Load} (there : state.loads[load]? = some old) (away : later ≠ load)
    (session : Session) (isLocked : Bool) :
    Reuses ⟨session, isLocked, state.loads.set load new, state.events⟩ later output artifact := by
  have nothing : ∀ event ∈ ([] : List LoadEvent), event.load = load := by simp
  have moved : Reuses ⟨session, isLocked, state.loads.set load new, state.events ++ []⟩ later
      output artifact := reuses.apart there away nothing session isLocked
  rw [List.append_nil] at moved
  exact moved

/-- What the events tell of the order of loads. The compiler was called for missing artifacts only;
no compile ended in a registration after another registration of the artifact; and a load that
looked for the artifact after that reuses it. -/
structure Ordered (state : Loads) : Prop where
  empty : ∀ load output length, .invoked load output length ∈ state.events → length = 0
  once : ∀ first second output one other unit next isCompiled,
    ¬ List.Sublist [.bound first output one unit isCompiled,
      .bound second output other next true] state.events
  late : ∀ first later output artifact unit isCompiled length,
    List.Sublist [.bound first output artifact unit isCompiled, .looked later output length]
        state.events →
      Reuses state later output artifact

/-- The step that registers an artifact that stands. -/
theorem reuse_reuses {state : Loads} {load : Nat} {output : String}
    {artifact : Except FileError Bytes} (ready : Ready state.session id holder resolver)
    (stands : Stands resolver state.session.files output artifact) {thread : Thread}
    {container : String}
    (there : state.loads[load]? = some ⟨thread, container, .reusing output⟩)
    (uncompiled : ∀ other length, .invoked load other length ∉ state.events) :
    Reuses ⟨(state.session.reuse id output).1, state.isLocked,
      state.loads.set load ⟨thread, container, (state.session.reuse id output).2⟩,
      state.events ++ state.session.noteAdvance load (.reusing output)
        (state.session.reuse id output).2⟩ load output artifact := by
  obtain ⟨⟨unit, registered⟩, isRead⟩ := stands.reuse ready
  have noted : state.session.noteAdvance load (.reusing output) (.leaving (.ok unit)) =
      [.bound load output artifact unit false] := by
    rw [← isRead]
    rfl
  rw [registered, noted]
  constructor
  · intro other length listed
    rcases List.mem_append.mp listed with earlier | new
    · exact uncompiled other length earlier
    · cases List.mem_singleton.mp new
  · refine ⟨⟨thread, container, .leaving (.ok unit)⟩, ?_, .inr ⟨unit, .inl rfl, by simp⟩⟩
    rw [getElem?_moved there, if_pos rfl]

/-- A load that found an artifact standing goes on like that. -/
theorem Reuses.advance {state : Loads} {load later : Nat} {output : String}
    {artifact : Except FileError Bytes} (reuses : Reuses state later output artifact)
    (ready : Ready state.session id holder resolver)
    (stands : Stands resolver state.session.files output artifact) {thread : Thread}
    {container : String} {phase : Phase}
    (there : state.loads[load]? = some ⟨thread, container, phase⟩) :
    Reuses ⟨(state.session.advance id resolver thread container phase).1, state.isLocked,
      state.loads.set load
        ⟨thread, container, (state.session.advance id resolver thread container phase).2⟩,
      state.events ++ state.session.noteAdvance load phase
        (state.session.advance id resolver thread container phase).2⟩ later output artifact := by
  rcases Decidable.em (later ≠ load) with away | same
  · exact reuses.apart there away (fun event noted => noteAdvance_load noted) _ _
  obtain rfl : later = load := Decidable.not_not.mp same
  have uncompiled := reuses.uncompiled
  -- Behind the registration a load alone stays as it is.
  have behind : ∀ unit, phase = .leaving (.ok unit) ∨ phase = .ended (.ok unit) →
      .bound later output artifact unit false ∈ state.events →
      state.session.advance id resolver thread container phase = (state.session, phase) →
      Reuses ⟨(state.session.advance id resolver thread container phase).1, state.isLocked,
        state.loads.set later
          ⟨thread, container, (state.session.advance id resolver thread container phase).2⟩,
        state.events ++ state.session.noteAdvance later phase
          (state.session.advance id resolver thread container phase).2⟩ later output artifact := by
    intro unit isBehind bound idle
    have nothing : state.session.noteAdvance later phase phase = [] := by
      rcases isBehind with rfl | rfl <;> rfl
    rw [idle, nothing, List.append_nil]
    refine ⟨uncompiled, ⟨thread, container, phase⟩, ?_, .inr ⟨unit, isBehind, bound⟩⟩
    rw [getElem?_moved there, if_pos rfl]
  rcases reuses.phase_cases there with rfl | ⟨unit, rfl | rfl, bound⟩
  · have step : state.session.advance id resolver thread container (.reusing output) =
        state.session.reuse id output := rfl
    rw [step]
    exact reuse_reuses ready stands there uncompiled
  · exact behind unit (.inl rfl) bound rfl
  · exact behind unit (.inr rfl) bound rfl

/-- A load that looks for an artifact that stands finds it. -/
theorem checkOutput_reuses {state : Loads} (told : Told state) {load : Nat} {output : String}
    {artifact : Except FileError Bytes}
    (stands : Stands resolver state.session.files output artifact) {thread : Thread}
    {container : String}
    (there : state.loads[load]? = some ⟨thread, container, .entered output⟩) (length : Nat) :
    Reuses ⟨(state.session.checkOutput output).1, state.isLocked,
      state.loads.set load ⟨thread, container, (state.session.checkOutput output).2⟩,
      state.events ++ [.looked load output length]⟩ load output artifact := by
  have filled : state.session.outputSize output ≠ 0 := by
    rw [outputSize_eq]
    exact stands.shownLength
  unfold checkOutput
  rw [if_neg filled]
  constructor
  · intro other called listed
    rcases List.mem_append.mp listed with earlier | new
    · exact told.young load _ there rfl _ earlier rfl
    · cases List.mem_singleton.mp new
  · refine ⟨⟨thread, container, .reusing output⟩, ?_, .inl rfl⟩
    rw [getElem?_moved there, if_pos rfl]

/-- Steps of which nothing is noted keep the order. -/
theorem Ordered.silent {state next : Loads} (ordered : Ordered state)
    (same : next.events = state.events)
    (goesOn : ∀ load output artifact, Reuses state load output artifact →
      Reuses next load output artifact) : Ordered next where
  empty := by
    rw [same]
    exact ordered.empty
  once := by
    rw [same]
    exact ordered.once
  late := by
    rw [same]
    exact fun first later output artifact unit isCompiled length pair =>
      goesOn later output artifact
        (ordered.late first later output artifact unit isCompiled length pair)

/-- Steps of which one event is noted keep the order, given that the event fits. -/
theorem Ordered.noted {state next : Loads} (ordered : Ordered state) {new : LoadEvent}
    (events : next.events = state.events ++ [new])
    (empty : ∀ load output length, new = .invoked load output length → length = 0)
    (once : ∀ second output one other unit, Bound state.events output one →
      new ≠ .bound second output other unit true)
    (late : ∀ later output artifact length, Bound state.events output artifact →
      new = .looked later output length → Reuses next later output artifact)
    (goesOn : ∀ later output artifact, Bound state.events output artifact →
      Reuses state later output artifact → Reuses next later output artifact) :
    Ordered next where
  empty := by
    intro load output length listed
    rw [events] at listed
    rcases List.mem_append.mp listed with earlier | noted
    · exact ordered.empty load output length earlier
    · exact empty load output length (List.mem_singleton.mp noted).symm
  once := by
    intro first second output one other unit later isCompiled pair
    rw [events] at pair
    rcases pair_sublist_concat pair with earlier | ⟨bound, same⟩
    · exact ordered.once first second output one other unit later isCompiled earlier
    · exact once second output one other later ⟨first, unit, isCompiled, bound⟩ same.symm
  late := by
    intro first later output artifact unit isCompiled length pair
    rw [events] at pair
    rcases pair_sublist_concat pair with earlier | ⟨bound, same⟩
    · exact goesOn later output artifact
        ⟨first, unit, isCompiled, earlier.subset List.mem_cons_self⟩
        (ordered.late first later output artifact unit isCompiled length earlier)
    · exact late later output artifact length ⟨first, unit, isCompiled, bound⟩ same.symm

/-- A step of a load alone keeps the order. -/
theorem Ordered.advance {state : Loads} (ordered : Ordered state)
    (sound : Sound state id holder resolver) (told : Told state) {load : Nat} {thread : Thread}
    {container : String} {phase : Phase}
    (there : state.loads[load]? = some ⟨thread, container, phase⟩) :
    Ordered ⟨(state.session.advance id resolver thread container phase).1, state.isLocked,
      state.loads.set load
        ⟨thread, container, (state.session.advance id resolver thread container phase).2⟩,
      state.events ++ state.session.noteAdvance load phase
        (state.session.advance id resolver thread container phase).2⟩ := by
  have goesOn : ∀ later output artifact, Bound state.events output artifact →
      Reuses state later output artifact → Reuses _ later output artifact :=
    fun later output artifact bound reuses =>
      reuses.advance sound.ready (sound.stands output artifact bound) there
  rcases state.session.noteAdvance_cases load phase
      (state.session.advance id resolver thread container phase).2 with
    nothing | ⟨found, rfl, noted⟩ | ⟨found, unit, rfl, _, noted⟩ |
      ⟨found, archive, unit, rfl, noted⟩
  · rw [nothing, List.append_nil] at goesOn ⊢
    refine ⟨ordered.empty, ordered.once, ?_⟩
    intro first later output artifact unit isCompiled length pair
    exact goesOn later output artifact ⟨first, unit, isCompiled, pair.subset List.mem_cons_self⟩
      (ordered.late first later output artifact unit isCompiled length pair)
  · rw [noted] at goesOn ⊢
    refine ordered.noted rfl (by simp) (by simp) ?_ goesOn
    intro later output artifact length bound same
    cases same
    exact checkOutput_reuses told (sound.stands _ artifact bound) there _
  · rw [noted] at goesOn ⊢
    exact ordered.noted rfl (by simp) (by simp) (by simp) goesOn
  · rw [noted] at goesOn ⊢
    refine ordered.noted rfl (by simp) ?_ (by simp) goesOn
    intro second output one other number bound same
    -- The load has the artifact to itself, so it is none that stands.
    cases same
    obtain ⟨own, _, _⟩ := sound.good load _ there
    exact (sound.stands _ one bound).not_apart (own.apart _ one bound)

/-- Every step keeps the order of events. What it notes is about the load that takes it, and the
phase of that load says what is known of its artifact, so that the new event fits behind those that
were noted. -/
theorem LoadStep.ordered {state next : Loads} (step : LoadStep id resolver state next)
    (sound : Sound state id holder resolver) (told : Told state) (ordered : Ordered state) :
    Ordered next := by
  cases step with
  | ask thread container =>
    refine ordered.silent rfl fun load output artifact reuses => ⟨reuses.uncompiled, ?_⟩
    obtain ⟨found, now, cases⟩ := reuses.phase
    obtain ⟨inside, _⟩ := List.getElem?_eq_some_iff.mp now
    exact ⟨found, by rw [List.getElem?_append_left inside, now], cases⟩
  | enter load thread container output there open_ =>
    refine ordered.silent rfl fun later other artifact reuses => ?_
    have away := reuses.other there (by simp) (by simp) (by simp)
    exact reuses.apart_silent there away state.session true
  | advance load thread container phase there => exact ordered.advance sound told there
  | invoke load thread container output archive there =>
    obtain ⟨_, empty, _⟩ := sound.good load _ there
    refine ordered.noted rfl ?_ (by simp) (by simp) ?_
    · intro other another length same
      cases same
      rw [outputSize_eq]
      exact empty
    · intro later another artifact _ reuses
      have away := reuses.other there (by simp) (by simp) (by simp)
      refine reuses.apart there away ?_ _ _
      intro event noted
      cases List.mem_singleton.mp noted
      rfl
  | work load thread container output archive files there through =>
    exact ordered.silent rfl fun later other artifact reuses =>
      ⟨reuses.uncompiled, reuses.phase⟩
  | return_ load thread container output archive result there =>
    refine ordered.silent rfl fun later other artifact reuses => ?_
    have away := reuses.other there (by simp) (by simp) (by simp)
    exact reuses.apart_silent there away state.session state.isLocked
  | leave load thread container result there =>
    refine ordered.silent rfl fun later other artifact reuses => ?_
    rcases Decidable.em (later ≠ load) with away | same
    · exact reuses.apart_silent there away state.session false
    obtain rfl : later = load := Decidable.not_not.mp same
    rcases reuses.phase_cases there with impossible | ⟨unit, isLeaving | impossible, bound⟩
    · cases impossible
    · cases isLeaving
      refine ⟨reuses.uncompiled, ⟨thread, container, .ended (.ok unit)⟩, ?_,
        .inr ⟨unit, .inr rfl, bound⟩⟩
      rw [getElem?_moved there, if_pos rfl]
    · cases impossible

/-! ## Every interleaving -/

/-- A compiler that copies. -/
def copying : Compiler := fun request files =>
  match files.read request.input with
  | .error error => (files, .error (.file error))
  | .ok content =>
    match files.write request.output content with
    | .error error => (files, .error (.file error))
    | .ok after => (after, .ok ⟨some 0, ""⟩)

/-- The compiler that copies works through its output only. -/
theorem copying_through (request : CompileRequest) (files : Files) :
    Files.Through request.output files (copying request files).1 := by
  unfold copying
  split
  · exact .nothing files
  · split
    · exact .nothing files
    · next written => exact .write (.nothing files) written

/-- A resolver with the default settings. -/
def copier : Resolver :=
  { staging := Staging.ofConfig {}, platform := .archive, compiler := copying, parent := none,
    dumpsFailedInput := true, patience := {}, reaper := 0 }

/-- Where its directory stands. -/
def copierHome : Home :=
  ⟨"/tmp/kiln-cache", ["tmp", "kiln-cache"], "staging", "libs"⟩

/-- The path of that directory leads to it where there are directories on the way. -/
theorem copierHome_anchored {files : Files} (top : files.bone? ["tmp"] = some .directory)
    (there : files.bone? ["tmp", "kiln-cache"] = some .directory) :
    files.Anchored copierHome.root copierHome.place := by
  have askable : Files.Askable "/tmp/kiln-cache" := ⟨by decide, by decide, by decide⟩
  exact Files.anchored_pair askable (by decide) (by decide) (by decide) top there

/-- What comes to a value has succeeded with it. -/
theorem ok_of_toOption {Error Value : Type} {result : Except Error Value} {value : Value}
    (comes : result.toOption = some value) : result = .ok value := by
  cases result with
  | error => cases comes
  | ok => exact congrArg Except.ok (Option.some.inj comes)

end Session

end Hotload
