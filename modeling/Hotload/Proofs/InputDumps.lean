import Hotload.Proofs.FailureFlag
import Hotload.Proofs.EncodedParts

/-!
# Dumps of compiler inputs

A compile that leaves nothing behind has its input dumped, if the resolver is to do so: the content
of the archive is written in Base64, cut into parts of 4096 characters, and every part is an event of
its own. Whoever finds the events puts the content together again. Each part says which one it is and
how many there are, and because its characters stand for whole groups of three bytes it can also be
read alone, as the 3072 bytes that it was made of. An archive that cannot be read is noted once.
Whatever happens to the dump, the call reports that nothing was left behind.
-/

namespace Hotload

open Text

namespace Event

/-- A part of a dump, as it shows in the log. -/
def isPart (event : Event) : Bool :=
  event.level = .error ∧ event.message = "failed compiler input"

/-- The failure to read what is to be dumped, as it shows in the log. -/
def isUnread (event : Event) : Bool :=
  event.level = .error ∧ event.message = "failed to dump compiler input"

/-- The Base64 characters that an event carries. -/
def characters : Event → List Char
  | .inputPart _ _ text => text.toList
  | _ => []

@[simp] theorem isPart_inputPart (part parts : Nat) (text : String) :
    isPart (.inputPart part parts text) = true :=
  rfl

@[simp] theorem isUnread_inputPart (part parts : Nat) (text : String) :
    isUnread (.inputPart part parts text) = false :=
  rfl

@[simp] theorem isPart_inputUnreadable : isPart .inputUnreadable = false := by
  decide

@[simp] theorem isUnread_inputUnreadable : isUnread .inputUnreadable = true := by
  decide

@[simp] theorem isPart_emptyArtifact : isPart .emptyArtifact = false := by
  decide

@[simp] theorem isUnread_emptyArtifact : isUnread .emptyArtifact = false := by
  decide

/-- A warning is neither. -/
theorem isPart_warning {event : Event} (warns : event.level = .warning) : isPart event = false := by
  simp [isPart, warns]

theorem isUnread_warning {event : Event} (warns : event.level = .warning) :
    isUnread event = false := by
  simp [isUnread, warns]

end Event

/-! ## What a dump tells -/

/-- Events that spell a content out in parts. -/
structure SpellsOut (content : Bytes) (parts : List Event) : Prop where
  /-- The parts are counted from one, and each knows how many they are. -/
  numbered : ∀ index event, parts[index]? = some event →
    event = Event.inputPart (index + 1) parts.length (String.ofList event.characters)
  /-- All but the last part have 4096 characters. -/
  full : ∀ index event, parts[index]? = some event → index + 1 < parts.length →
    event.characters.length = 4096
  /-- The last part is neither empty nor longer. -/
  last : ∀ event, parts.getLast? = some event →
    0 < event.characters.length ∧ event.characters.length ≤ 4096
  /-- All characters one after the other are read as the content. -/
  whole : Base64.decode? (parts.flatMap Event.characters) = some content
  /-- Each part alone is read as its slice of the content. -/
  alone : ∀ index event, parts[index]? = some event →
    Base64.decode? event.characters = some (content.slice (3072 * index) 3072)
  /-- There is a part for every 3072 bytes, and one for those that remain. -/
  length : parts.length = (content.length + 3071) / 3072
  /-- Only an empty content has no parts. -/
  none : parts = [] ↔ content = []

namespace Session

variable {session : Session} {id : Nat}

theorem dumpEvents_eq (content : Bytes) :
    dumpEvents content = (Base64.chunks 3072 content).zipIdx.map fun (slice, index) =>
      .inputPart (index + 1) (Base64.chunks 3072 content).length
        (String.ofList (Base64.encode slice)) := by
  have parts : Base64.chunks dumpWidth (Base64.encode content) =
      (Base64.chunks 3072 content).map Base64.encode :=
    Base64.chunks_encode (show 0 < 1024 by decide) content
  unfold dumpEvents
  simp only [parts, List.length_map, List.zipIdx_map, List.map_map]
  rfl

theorem length_dumpEvents (content : Bytes) :
    (dumpEvents content).length = (Base64.chunks 3072 content).length := by
  rw [dumpEvents_eq, List.length_map, List.length_zipIdx]

/-- The parts of a dump, one by one. -/
theorem getElem?_dumpEvents (content : Bytes) (index : Nat) :
    (dumpEvents content)[index]? =
      if 3072 * index < content.length then
        some (.inputPart (index + 1) (dumpEvents content).length
          (String.ofList (Base64.encode (content.slice (3072 * index) 3072))))
      else none := by
  rw [length_dumpEvents, dumpEvents_eq, List.getElem?_map, List.getElem?_zipIdx,
    Base64.getElem?_chunks (by decide), Nat.mul_comm index]
  split
  · rw [Nat.zero_add]
    rfl
  · rfl

/-- The characters of all parts are those of the content. -/
theorem characters_dumpEvents (content : Bytes) :
    (dumpEvents content).flatMap Event.characters = Base64.encode content := by
  have flat : (dumpEvents content).flatMap Event.characters =
      (Base64.chunks dumpWidth (Base64.encode content)).flatten := by
    unfold dumpEvents
    dsimp only
    generalize Base64.chunks dumpWidth (Base64.encode content) = parts
    calc
      _ = (parts.zipIdx.map Prod.fst).flatten := by
        simp [List.flatMap_def, Function.comp_def, Event.characters]
      _ = parts.flatten := by rw [List.zipIdx_map_fst]
  rw [flat, Base64.flatten_chunks (by decide)]

/-- The events of a dump spell the content out. -/
theorem dumpEvents_spellsOut (content : Bytes) : SpellsOut content (dumpEvents content) := by
  have place : ∀ index event, (dumpEvents content)[index]? = some event →
      3072 * index < content.length ∧
        event = Event.inputPart (index + 1) (dumpEvents content).length
          (String.ofList (Base64.encode (content.slice (3072 * index) 3072))) := by
    intro index event there
    rw [getElem?_dumpEvents] at there
    split at there
    · next inside => exact ⟨inside, (Option.some.inj there).symm⟩
    · cases there
  have beyond : ∀ index, index < (dumpEvents content).length ↔ 3072 * index < content.length := by
    intro index
    rw [← not_iff_not, Nat.not_lt, ← List.getElem?_eq_none_iff, getElem?_dumpEvents]
    split <;> simp [*]
  have length : ∀ index, (content.slice (3072 * index) 3072).length =
      min 3072 (content.length - 3072 * index) := by
    intro index
    rw [Bytes.slice, List.length_take, List.length_drop]
  refine ⟨?_, ?_, ?_, ?_, ?_, ?_, ?_⟩
  · intro index event there
    obtain ⟨-, rfl⟩ := place index event there
    simp [Event.characters]
  · intro index event there before
    obtain ⟨-, rfl⟩ := place index event there
    have enough := (beyond (index + 1)).mp before
    simp only [Event.characters, String.toList_ofList, Base64.length_encode, length]
    omega
  · intro event there
    rw [List.getLast?_eq_getElem?] at there
    obtain ⟨inside, rfl⟩ := place _ event there
    simp only [Event.characters, String.toList_ofList, Base64.length_encode, length]
    omega
  · rw [characters_dumpEvents, Base64.decode?_encode]
  · intro index event there
    obtain ⟨-, rfl⟩ := place index event there
    simp only [Event.characters, String.toList_ofList, Base64.decode?_encode]
  · have past := beyond (dumpEvents content).length
    have last := beyond ((dumpEvents content).length - 1)
    omega
  · have first := beyond 0
    rw [← List.length_eq_zero_iff, ← List.length_eq_zero_iff (l := content)]
    omega

/-! ## Warnings -/

/-- Nothing was noted but warnings. -/
def Warns (before after : Session) : Prop :=
  ∃ noted, after.events = before.events ++ noted ∧ ∀ event ∈ noted, event.level = .warning

theorem Warns.same {before after : Session} (same : after.events = before.events) :
    Warns before after :=
  ⟨[], by rw [same, List.append_nil], by simp⟩

theorem Warns.trans {first second third : Session} (left : Warns first second)
    (right : Warns second third) : Warns first third := by
  obtain ⟨early, before, warnsEarly⟩ := left
  obtain ⟨late, after, warnsLate⟩ := right
  refine ⟨early ++ late, by rw [after, before, List.append_assoc], fun event noted => ?_⟩
  exact (List.mem_append.mp noted).elim (warnsEarly event) (warnsLate event)

theorem discard_warns (session : Session) (path : String) :
    Warns session (session.discard path) := by
  unfold discard
  split
  · exact Warns.same rfl
  · exact ⟨[.stagedFileKept], rfl, by simp [Event.level]⟩

theorem release_warns (session : Session) (id : Nat) : Warns session (session.release id).1 := by
  unfold release
  split
  · exact Warns.same rfl
  · dsimp only
    split
    · exact Warns.same rfl
    · exact ⟨[.temporaryFileKept], rfl, by simp [Event.level]⟩

theorem settle_warns (session : Session) : Warns session session.settle := by
  have kept : Warns session session.keptLoaders := by
    rw [session.keptLoaders_pruned.rest]
    exact Warns.same rfl
  rw [settle_eq]
  generalize session.keptLoaders.deadTemporaries = dead
  generalize session.keptLoaders = later at kept
  induction dead generalizing later with
  | nil => exact kept
  | cons first rest inductionHypothesis =>
    exact inductionHypothesis _ (kept.trans (release_warns later first))

/-! ## Dumps of compiles -/

/-- What is noted where an archive is to be dumped: its parts, or that it cannot be read. -/
def dumpOf : Except FileError Bytes → List Event
  | .ok content => dumpEvents content
  | .error _ => [.inputUnreadable]

theorem dump_events (session : Session) (archive : String) :
    (session.dump archive).events = session.events ++ dumpOf (session.files.read archive) := by
  unfold dump
  split <;> next heard => rw [heard]; rfl

/-- A compile that left nothing behind notes that, then the dump, and then at most warnings. -/
theorem run_dumps {compiling : Compiling} (nothing : compiling.LeavesNothing)
    (dumps : compiling.resolver.dumpsFailedInput = true) (id : Nat) (thread : Thread) :
    ∃ closing, (∀ event ∈ closing, event.level = .warning) ∧
      (compiling.run id thread).1.events = compiling.session.events ++
        (.emptyArtifact :: dumpOf (compiling.answer.1.read compiling.archive) ++ closing) := by
  rw [run_of_leavesNothing nothing id thread]
  let failed := ((invoked compiling id thread).updateResolver id fun resolver =>
    { resolver with hasFailed := true }).log [.emptyArtifact]
  have noted : (failed.dump compiling.archive).events = compiling.session.events ++
      (.emptyArtifact :: dumpOf (compiling.answer.1.read compiling.archive)) := by
    have logged : failed.events = compiling.session.events ++ [.emptyArtifact] := rfl
    have left : failed.files = compiling.answer.1 := rfl
    rw [dump_events, logged, left, List.append_assoc, List.singleton_append]
  have rejected : Warns (failed.dump compiling.archive) ((invoked compiling id thread).rejectEmpty
      id compiling.resolver compiling.archive compiling.output compiling.temporary) := by
    unfold rejectEmpty
    rw [dumps]
    cases compiling.temporary with
    | some temporary => exact release_warns _ temporary
    | none => exact discard_warns _ compiling.output
  have unmarked : Warns ((invoked compiling id thread).rejectEmpty id compiling.resolver
      compiling.archive compiling.output compiling.temporary)
      (((invoked compiling id thread).rejectEmpty id compiling.resolver compiling.archive
        compiling.output compiling.temporary).unmarkBusy id thread) := Warns.same rfl
  obtain ⟨closing, events, warns⟩ := (rejected.trans unmarked).trans (settle_warns _)
  exact ⟨closing, warns, by rw [events, noted, List.append_assoc]⟩

/-- Up to its compile, a call notes nothing. -/
theorem compiling?_events {call : PipelineCall} {compiling : Compiling}
    (comes : session.compiling? id call = some compiling) :
    compiling.session.events = session.events := by
  have staged : ∀ (session : Session) (staging : Staging) (key : String) (extension : Option String)
      (create : Bool), (session.stage staging key extension create).1.events = session.events := by
    intro session staging key extension create
    rw [stage_rest]
  obtain ⟨resolver, present, comes⟩ := Option.bind_eq_some_iff.mp comes
  cases call with
  | define name content =>
    dsimp only at comes
    unfold definitionCompile? at comes
    have first := staged session resolver.staging name (some resolver.staging.archiveExtension) false
    split at comes
    · cases comes
    · next after archive heard =>
      rw [heard] at first
      split at comes
      · cases comes
      · next files _ =>
        have second := staged { after with files } resolver.staging ("unit-" ++ archive)
          resolver.staging.artifactExtension true
        split at comes
        · cases comes
        · next later output heardLater =>
          rw [heardLater] at second
          cases comes
          exact second.trans first
  | loadContainer container =>
    dsimp only at comes
    unfold containerCompile? at comes
    have first :=
      staged session resolver.staging container (some resolver.staging.archiveExtension) false
    split at comes
    · cases comes
    split at comes
    · cases comes
    split at comes
    · split at comes
      · cases comes
      · next after archive heard =>
        rw [heard] at first
        split at comes
        · cases comes
        · cases comes
          exact first
    · cases comes

/-- What a call notes whose compile left nothing behind. -/
structure DumpsInput (read : Except FileError Bytes) (noted : List Event) : Prop where
  /-- A content that can be read is spelled out, and nothing is said to be unreadable. -/
  readable : ∀ content, read = .ok content →
    SpellsOut content (noted.filter Event.isPart) ∧ noted.countP Event.isUnread = 0
  /-- If it cannot be read, this is said once, and there are no parts. -/
  unreadable : ∀ error, read = .error error →
    noted.filter Event.isPart = [] ∧ noted.countP Event.isUnread = 1

theorem dumpsInput (read : Except FileError Bytes) {closing : List Event}
    (warns : ∀ event ∈ closing, event.level = .warning) :
    DumpsInput read (.emptyArtifact :: dumpOf read ++ closing) := by
  have noParts : closing.filter Event.isPart = [] :=
    List.filter_eq_nil_iff.mpr fun event noted => by simp [Event.isPart_warning (warns event noted)]
  have noFailure : closing.countP Event.isUnread = 0 :=
    List.countP_eq_zero.mpr fun event noted => by simp [Event.isUnread_warning (warns event noted)]
  constructor
  · rintro content rfl
    have isPart : ∀ event ∈ dumpEvents content, event.isPart = true ∧ event.isUnread = false := by
      intro event listed
      obtain ⟨_, _, rfl⟩ := List.mem_map.mp listed
      simp
    have parts : (dumpEvents content).filter Event.isPart = dumpEvents content :=
      List.filter_eq_self.mpr fun event listed => (isPart event listed).1
    have read : (dumpEvents content).countP Event.isUnread = 0 :=
      List.countP_eq_zero.mpr fun event listed => by simp [(isPart event listed).2]
    have spells := dumpEvents_spellsOut content
    simpa [dumpOf, noParts, noFailure, parts, read, List.filter_append] using spells
  · rintro error rfl
    simp [dumpOf, noParts, noFailure]

/-- A call whose compile leaves nothing behind dumps the archive, if its resolver is to do so, and
reports that there is no output, whatever the archive is like. The archive is read as the compiler
left it. Between the compile and the end of the call only warnings are noted, so the events of the
dump can be told apart from the rest. -/
theorem call_dumps {call : PipelineCall} {compiling : Compiling}
    (comes : session.compiling? id call = some compiling) (nothing : compiling.LeavesNothing)
    (dumps : compiling.resolver.dumpsFailedInput = true) (thread : Thread) :
    (session.call id thread call).2 = some (.emptyOutput compiling.archive) ∧
      ∃ noted, (session.call id thread call).1.events = session.events ++ noted ∧
        DumpsInput (compiling.answer.1.read compiling.archive) noted := by
  have reports : (session.call id thread call).2 = some (.emptyOutput compiling.archive) :=
    (call_emptyOutput_iff session id thread call _).mpr ⟨compiling, comes, rfl, nothing⟩
  refine ⟨reports, ?_⟩
  obtain ⟨closing, warns, events⟩ := run_dumps nothing dumps id thread
  have before := compiling?_events comes
  have outcome := session.call_outcome id thread call
  rw [comes] at outcome
  generalize session.call id thread call = ended at outcome reports ⊢
  obtain ⟨after, failure⟩ := ended
  cases outcome with
  | compiled _ _ _ _ silent => exact Bool.noConfusion (silent _ reports)
  | @failed _ _ later _ _ ran left =>
    have discarded : Warns later after := by
      rcases left with rfl | rfl
      · exact discard_warns later _
      · exact (discard_warns later _).trans (discard_warns _ _)
    obtain ⟨last, eventsLast, warnsLast⟩ := discarded
    rw [ran] at events
    have warnings : ∀ event ∈ closing ++ last, event.level = .warning :=
      fun event noted => (List.mem_append.mp noted).elim (warns event) (warnsLast event)
    refine ⟨_, ?_, dumpsInput _ warnings⟩
    rw [eventsLast, events, before, List.append_assoc, List.append_assoc]

/-! ### A compiler that writes over its input -/

/-- A compiler that puts 3073 bytes in the place of the archive and writes no artifact. -/
def scribbling : Compiler := fun request files =>
  match files.write request.input (List.replicate 3073 7) with
  | .error error => (files, .error (.file error))
  | .ok after => (after, .ok ⟨some 0, ""⟩)

/-- A resolver with that compiler. -/
def openedScribbler : Session :=
  besideNothing.perform (.openResolver "loader" {} scribbling .archive none)

/-- A compiler writes 3073 bytes over its input and leaves no artifact. That is one byte more than a
part has room for, so the dump takes a second part. -/
theorem call_dumps_twoParts :
    ∃ compiling, openedScribbler.compiling? 1 (.define "A" [1]) = some compiling ∧
      compiling.LeavesNothing ∧ compiling.resolver.dumpsFailedInput = true ∧
      compiling.answer.1.read compiling.archive = .ok (List.replicate 3073 7) ∧
      (openedScribbler.call 1 "main" (.define "A" [1])).2 = some (.emptyOutput compiling.archive) ∧
      ∃ noted, (openedScribbler.call 1 "main" (.define "A" [1])).1.events =
          openedScribbler.events ++ noted ∧
        DumpsInput (.ok (List.replicate 3073 7)) noted ∧
        (noted.filter Event.isPart).length = 2 := by
  have found : ((openedScribbler.compiling? 1 (.define "A" [1])).map fun compiling =>
      (compiling.resolver.dumpsFailedInput, compiling.answer.2,
        compiling.answer.1.shown? compiling.output |>.map (·.2),
        compiling.answer.1.read compiling.archive)) =
        some (true, .ok ⟨some 0, ""⟩, some (.file [] 0), .ok (List.replicate 3073 7)) := by
    decide +kernel
  obtain ⟨compiling, comes, found⟩ := Option.map_eq_some_iff.mp found
  obtain ⟨dumps, succeeded, shown, read⟩ := by simpa only [Prod.mk.injEq] using found
  obtain ⟨⟨location, _⟩, shown, rfl⟩ := Option.map_eq_some_iff.mp shown
  have nothing : compiling.LeavesNothing := ⟨⟨_, succeeded⟩, .inr ⟨location, 0, shown⟩⟩
  obtain ⟨reports, noted, events, dumped⟩ := call_dumps comes nothing dumps "main"
  rw [read] at dumped
  have length := (dumped.readable _ rfl).1.length
  rw [List.length_replicate] at length
  exact ⟨compiling, comes, nothing, dumps, read, reports, noted, events, dumped, length⟩

end Session

end Hotload
