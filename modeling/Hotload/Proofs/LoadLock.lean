import Hotload.Proofs.Loads

/-!
# Loads and their lock

At most one load is past the lock, whatever the interleaving: a load enters only when the lock is
free, and every step under it stays under it until the load leaves. A load that has not looked for
its artifact yet is in no event.
-/

namespace Hotload

namespace Session

variable {id : Nat} {resolver : Resolver}

/-- A load that moves on leaves the others where they are. -/
theorem getElem?_moved {loads : List Load} {load : Nat} {old : Load}
    (there : loads[load]? = some old) (new : Load) (other : Nat) :
    (loads.set load new)[other]? = if other = load then some new else loads[other]? := by
  obtain ⟨inside, _⟩ := List.getElem?_eq_some_iff.mp there
  rw [List.getElem?_set]
  by_cases same : load = other
  · simp [same, same ▸ inside]
  · simp [same, Ne.symm same]

/-- A load that begins comes after the others. -/
theorem getElem?_asked {loads : List Load} {new found : Load} {other : Nat}
    (there : (loads ++ [new])[other]? = some found) :
    loads[other]? = some found ∨ other = loads.length ∧ found = new := by
  rw [List.getElem?_append] at there
  split at there
  · exact .inl there
  · next beyond =>
    obtain ⟨inside, same⟩ := List.getElem?_eq_some_iff.mp there
    simp only [List.length_singleton] at inside
    refine .inr ⟨by omega, ?_⟩
    simpa using same.symm

/-- At most one load is past the lock, and none while the lock is free. -/
structure Locked (state : Loads) : Prop where
  alone : ∀ (first second : Nat) (one other : Load), state.loads[first]? = some one →
    state.loads[second]? = some other → one.phase.isInside = true →
      other.phase.isInside = true → first = second
  free : state.isLocked = false → ∀ (load : Nat) (found : Load), state.loads[load]? = some found →
    found.phase.isInside = false

/-- A load that moves on without passing the lock. -/
theorem Locked.move {state : Loads} (locked : Locked state) {load : Nat} {thread : Thread}
    {container : String} {phase next : Phase}
    (there : state.loads[load]? = some ⟨thread, container, phase⟩)
    (same : next.isInside = phase.isInside) (session : Session) (events : List LoadEvent) :
    Locked ⟨session, state.isLocked, state.loads.set load ⟨thread, container, next⟩, events⟩ := by
  -- Each load now stands for one that was there and was past the lock if this one is.
  have before : ∀ (other : Nat) (found : Load),
      (state.loads.set load ⟨thread, container, next⟩)[other]? = some found →
        ∃ was : Load, state.loads[other]? = some was ∧
        was.phase.isInside = found.phase.isInside := by
    intro other found now
    rw [getElem?_moved there] at now
    split at now
    · next here =>
      cases now
      exact ⟨_, here ▸ there, same.symm⟩
    · exact ⟨found, now, rfl⟩
  constructor
  · intro first second one other isFirst isSecond oneInside otherInside
    obtain ⟨wasFirst, atFirst, firstSame⟩ := before first one isFirst
    obtain ⟨wasSecond, atSecond, secondSame⟩ := before second other isSecond
    exact locked.alone first second wasFirst wasSecond atFirst atSecond
      (firstSame.trans oneInside) (secondSame.trans otherInside)
  · intro free other found now
    obtain ⟨was, atOther, otherSame⟩ := before other found now
    exact otherSame.symm.trans (locked.free free other was atOther)

/-- Every step keeps the lock: only entering takes it, while it is free, and only leaving gives it
back. -/
theorem LoadStep.locked {state next : Loads} (step : LoadStep id resolver state next)
    (locked : Locked state) : Locked next := by
  cases step with
  | ask thread container =>
    constructor
    · intro first second one other isFirst isSecond oneInside otherInside
      rcases getElem?_asked isFirst with atFirst | ⟨_, rfl⟩
      · rcases getElem?_asked isSecond with atSecond | ⟨_, rfl⟩
        · exact locked.alone first second one other atFirst atSecond oneInside otherInside
        · cases otherInside
      · cases oneInside
    · intro free load found now
      rcases getElem?_asked now with earlier | ⟨_, rfl⟩
      · exact locked.free free load found earlier
      · rfl
  | enter load thread container output there open_ =>
    constructor
    · intro first second one other isFirst isSecond oneInside otherInside
      rw [getElem?_moved there] at isFirst isSecond
      split at isFirst
      · next firstHere =>
        split at isSecond
        · next secondHere => rw [firstHere, secondHere]
        · have outside := locked.free open_ second other isSecond
          rw [outside] at otherInside
          cases otherInside
      · have outside := locked.free open_ first one isFirst
        rw [outside] at oneInside
        cases oneInside
    · intro free
      cases free
  | advance load thread container phase there =>
    exact locked.move there (advance_isInside state.session thread container phase) _ _
  | invoke load thread container output archive there =>
    have same : (Phase.compiling output archive).isInside =
        (Phase.packaged output archive).isInside := rfl
    exact locked.move there same _ _
  | work load thread container output archive files there through =>
    exact ⟨locked.alone, locked.free⟩
  | return_ load thread container output archive result there =>
    have same : (Phase.compiled output archive result).isInside =
        (Phase.compiling output archive).isInside := rfl
    exact locked.move there same _ _
  | leave load thread container result there =>
    have others : ∀ (other : Nat) (found : Load), other ≠ load → state.loads[other]? = some found →
        found.phase.isInside = false := by
      intro other found away now
      rw [← Bool.not_eq_true]
      intro inside
      exact away (locked.alone other load found _ now there inside rfl)
    constructor
    · intro first second one other isFirst isSecond oneInside otherInside
      rw [getElem?_moved there] at isFirst isSecond
      split at isFirst
      · cases isFirst
        cases oneInside
      · next away =>
        rw [others first one away isFirst] at oneInside
        cases oneInside
    · intro _ other found now
      rw [getElem?_moved there] at now
      split at now
      · cases now
        rfl
      · next away => exact others other found away now

/-! ## Events -/

/-- Every event is about a load there is, and none about a load that has not looked for its artifact
yet. -/
structure Told (state : Loads) : Prop where
  known : ∀ event ∈ state.events, event.load < state.loads.length
  young : ∀ (load : Nat) (found : Load), state.loads[load]? = some found → found.phase.isYoung = true →
    ∀ event ∈ state.events, event.load ≠ load

/-- What is noted of a load is about that load. -/
theorem noteAdvance_load {session : Session} {load : Nat} {phase next : Phase} {event : LoadEvent}
    (noted : event ∈ session.noteAdvance load phase next) : event.load = load := by
  unfold noteAdvance at noted
  split at noted
  · cases List.mem_singleton.mp noted
    rfl
  · cases List.mem_singleton.mp noted
    rfl
  · cases List.mem_singleton.mp noted
    rfl
  · cases noted

/-- A load that has not looked for its artifact after a step had not before, and nothing is noted of
the step. -/
theorem noteAdvance_young {session : Session} {load : Nat} {thread : Thread} {container : String}
    {phase : Phase}
    (young : (session.advance id resolver thread container phase).2.isYoung = true) :
    phase.isYoung = true ∧ session.noteAdvance load phase
      (session.advance id resolver thread container phase).2 = [] := by
  have precedes : phase.Precedes (session.advance id resolver thread container phase).2 :=
    session.advance_precedes thread container phase
  generalize (session.advance id resolver thread container phase).2 = next at precedes young
  cases precedes with
  | stay _ idle =>
    cases phase with
    | waiting output => exact ⟨rfl, rfl⟩
    | packaged | compiling | leaving | ended => cases young
    | _ => cases idle
  | found | placed => exact ⟨rfl, rfl⟩
  | _ => cases young

/-- A load that moves on, with what is noted of it. -/
theorem Told.move {state : Loads} (told : Told state) {load : Nat} {thread : Thread}
    {container : String} {phase next : Phase}
    (there : state.loads[load]? = some ⟨thread, container, phase⟩) {events : List LoadEvent}
    (about : ∀ event ∈ events, event.load = load)
    (younger : next.isYoung = true → phase.isYoung = true ∧ events = []) (session : Session)
    (isLocked : Bool) :
    Told ⟨session, isLocked, state.loads.set load ⟨thread, container, next⟩,
      state.events ++ events⟩ := by
  obtain ⟨inside, _⟩ := List.getElem?_eq_some_iff.mp there
  constructor
  · intro event listed
    rw [List.length_set]
    rcases List.mem_append.mp listed with earlier | new
    · exact told.known event earlier
    · rw [about event new]
      exact inside
  · intro other found now isYoung event listed
    rw [getElem?_moved there] at now
    split at now
    · next here =>
      cases now
      obtain ⟨wasYoung, nothing⟩ := younger isYoung
      rw [nothing, List.append_nil] at listed
      rw [here]
      exact told.young load _ there wasYoung event listed
    · next away =>
      rcases List.mem_append.mp listed with earlier | new
      · exact told.young other found now isYoung event earlier
      · rw [about event new]
        exact Ne.symm away

/-- A load that moves on while nothing is noted of it. -/
theorem Told.stay {state : Loads} (told : Told state) {load : Nat} {thread : Thread}
    {container : String} {phase next : Phase}
    (there : state.loads[load]? = some ⟨thread, container, phase⟩)
    (younger : next.isYoung = true → phase.isYoung = true) (session : Session)
    (isLocked : Bool) :
    Told ⟨session, isLocked, state.loads.set load ⟨thread, container, next⟩, state.events⟩ := by
  have nothing : ∀ event ∈ ([] : List LoadEvent), event.load = load := by simp
  have moved := told.move there nothing (fun young => ⟨younger young, rfl⟩) session isLocked
  rw [List.append_nil] at moved
  exact moved

/-- Every step keeps events told: what it notes is about the load that takes it, and a load looks
for its artifact before anything else is noted of it. -/
theorem LoadStep.told {state next : Loads} (step : LoadStep id resolver state next)
    (told : Told state) : Told next := by
  cases step with
  | ask thread container =>
    constructor
    · intro event listed
      have earlier := told.known event listed
      simp only [List.length_append, List.length_singleton]
      omega
    · intro load found now isYoung event listed
      rcases getElem?_asked now with earlier | ⟨atEnd, _⟩
      · exact told.young load found earlier isYoung event listed
      · have earlier := told.known event listed
        omega
  | enter load thread container output there open_ =>
    exact told.stay there (fun _ => rfl) state.session true
  | advance load thread container phase there =>
    exact told.move there (fun event noted => noteAdvance_load noted) noteAdvance_young _ _
  | invoke load thread container output archive there =>
    refine told.move there ?_ ?_ _ _
    · intro event noted
      cases List.mem_singleton.mp noted
      rfl
    · intro young
      cases young
  | work load thread container output archive files there through =>
    exact ⟨told.known, told.young⟩
  | return_ load thread container output archive result there =>
    exact told.stay there (fun young => by cases young) state.session state.isLocked
  | leave load thread container result there =>
    exact told.stay there (fun young => by cases young) state.session false

end Session

end Hotload
