import Hotload.Proofs.FailedDefinitions
import Hotload.Proofs.SearchSteps
import Hotload.Proofs.SurvivingFiles

/-!
# What look-ups learn

A look-up leaves symbols behind: a unit remembers what it made, and a resolver what its local unit
found. What is remembered for a loader is what the loader would have answered anyway, so no answer
changes by it, but for the numbers of symbols.

The answers compared are those of the loaders that one loader can ask, directly or through others,
provided that they are there and their artifacts are shown. `Learnt` says that a later session has
the loaders of an earlier one with nothing more than such symbols remembered. It follows that they
answer alike in both, and from this that one more look-up remembers nothing else.
-/

namespace Hotload

/-- The second symbol is the first one, but for its number. -/
def Symbol.Matches (first second : Symbol) : Prop :=
  second = { first with serial := second.serial }

theorem Symbol.Matches.refl (symbol : Symbol) : symbol.Matches symbol :=
  rfl

theorem Symbol.Matches.symm {first second : Symbol} (same : first.Matches second) :
    second.Matches first := by
  unfold Matches at same ⊢
  rw [same]

namespace Answer

/-- The answers are the same, but for the number of a symbol that is found. -/
def Matches (first second : Answer) : Prop :=
  second = first ∨
    ∃ symbol other, first = .found symbol ∧ second = .found other ∧ symbol.Matches other

theorem Matches.refl (answer : Answer) : answer.Matches answer :=
  .inl rfl

theorem Matches.symm {first second : Answer} (same : first.Matches second) :
    second.Matches first := by
  rcases same with rfl | ⟨symbol, other, rfl, rfl, same⟩
  · exact .inl rfl
  · exact .inr ⟨other, symbol, rfl, rfl, same.symm⟩

theorem Matches.isMiss {first second : Answer} (same : first.Matches second) :
    second.isMiss = first.isMiss := by
  rcases same with rfl | ⟨symbol, other, rfl, rfl, _⟩ <;> rfl

/-- Where one answer finds a symbol, the other finds it. -/
theorem Matches.found {first second : Answer} (same : first.Matches second) {symbol : Symbol}
    (found : first = .found symbol) : ∃ other, second = .found other ∧ symbol.Matches other := by
  rcases same with rfl | ⟨there, other, rfl, rfl, same⟩
  · exact ⟨symbol, found, .refl symbol⟩
  · cases found
    exact ⟨other, rfl, same⟩

/-- The first answer is only the end of the depth, or the second one matches it. -/
def Covers (first second : Answer) : Prop :=
  first ≠ .crashed .endless → first.Matches second

/-- A search through answers that are covered is covered: up to its first hit, every step ended. -/
theorem firstHit_covers {first second : List Answer} (each : List.Forall₂ Covers first second) :
    Covers (firstHit first) (firstHit second) := by
  induction each with
  | nil => exact fun _ => Matches.refl _
  | @cons early late rest others head tail inductionHypothesis =>
    intro ended
    by_cases missed : early.isMiss = true
    · have same := head (by rintro rfl; cases missed)
      simp only [firstHit, same.isMiss, missed, ↓reduceIte] at ended ⊢
      exact inductionHypothesis ended
    · simp only [firstHit, missed, Bool.false_eq_true, ↓reduceIte] at ended ⊢
      have same := head ended
      simp only [same.isMiss, missed, Bool.false_eq_true, ↓reduceIte]
      exact same

end Answer

namespace Session

open Answer (Covers)
open Files (Survives)

/-! ## Answers at some depth -/

/-- What is answered at any depth is the answer. -/
theorem reply_of_within (session : Session) (name : String) (depth : Nat) (loader : Loader)
    (ended : session.replyWithin name depth loader ≠ .crashed .endless) :
    session.reply name loader = session.replyWithin name depth loader := by
  have deep : ∀ more, session.loaderCount + 1 ≤ more →
      session.replyWithin name more loader ≠ .crashed .endless →
        session.replyWithin name (session.loaderCount + 1) loader =
          session.replyWithin name more loader := by
    intro more deeper
    induction more, deeper using Nat.le_induction with
    | base => exact fun _ => rfl
    | succ more deeper inductionHypothesis =>
      intro later
      have same := (session.find_exhausts name).later deeper loader later
      rw [inductionHypothesis (same ▸ later), same]
  rcases Nat.le_total depth (session.loaderCount + 1) with shallow | deeper
  · exact session.replyWithin_settles name shallow loader ended
  · exact deep depth deeper ended

/-- The loaders that a loader asks. -/
def asks (session : Session) : Loader → List Loader
  | .failing | .system _ => []
  | .unit id => ((session.units.get? id).bind (·.parent)).toList
  | .resolver id =>
    match session.resolvers.get? id with
    | none => []
    | some resolver =>
      resolver.parent.toList ++ resolver.registry.map (fun entry => .unit entry.2)
        ++ resolver.localUnit.toList

/-- In both sessions, a loader has the same for a name and asks the same loaders. -/
def SameAt (name : String) (first second : Session) : Loader → Prop
  | .failing => True
  | .system _ => second.systems = first.systems
  | .unit id =>
    (first.ownReply name id).Matches (second.ownReply name id) ∧
      (second.units.get? id).bind (·.parent) = (first.units.get? id).bind (·.parent)
  | .resolver id => ∃ resolver other, first.resolvers.get? id = some resolver ∧
      second.resolvers.get? id = some other ∧
      definedReply other name = definedReply resolver name ∧ other.parent = resolver.parent ∧
      other.registry = resolver.registry ∧ other.localUnit = resolver.localUnit

section

variable {name : String} {first second : Session} {loader : Loader}

theorem SameAt.symm (same : SameAt name first second loader) : SameAt name second first loader := by
  cases loader with
  | failing => trivial
  | system id => exact Eq.symm same
  | unit id => exact ⟨same.1.symm, same.2.symm⟩
  | resolver id =>
    obtain ⟨resolver, other, there, here, defined, parent, registry, localUnit⟩ := same
    exact ⟨other, resolver, here, there, defined.symm, parent.symm, registry.symm, localUnit.symm⟩

theorem SameAt.asks (same : SameAt name first second loader) :
    second.asks loader = first.asks loader := by
  cases loader with
  | failing => rfl
  | system id => rfl
  | unit id => simp only [Session.asks, same.2]
  | resolver id =>
    obtain ⟨resolver, other, there, here, _, parent, registry, localUnit⟩ := same
    simp only [Session.asks, there, here, parent, registry, localUnit]

theorem replyOf?_covers {reply other : Loader → Answer} {loader : Option Loader}
    (each : ∀ asked ∈ loader, Covers (reply asked) (other asked)) :
    Covers (replyOf? reply loader) (replyOf? other loader) := by
  cases loader with
  | none => exact fun _ => .refl _
  | some loader => exact each loader rfl

/-- A loader that has the same and asks the same answers alike if those that it asks do. -/
theorem replyOf_covers (same : SameAt name first second loader) {reply other : Loader → Answer}
    (each : ∀ asked ∈ first.asks loader, Covers (reply asked) (other asked)) :
    Covers (replyOf first name reply loader) (replyOf second name other loader) := by
  cases loader with
  | failing => exact fun _ => .refl _
  | system id =>
    simp only [replyOf, show second.systems = first.systems from same]
    exact fun _ => .refl _
  | unit id =>
    obtain ⟨own, parent⟩ := same
    simp only [replyOf, parent]
    have among : ∀ asked ∈ (first.units.get? id).bind (·.parent), Covers (reply asked) (other asked) :=
      fun asked member => each asked (by simpa [Session.asks] using member)
    have passed := replyOf?_covers among
    rcases own with own | ⟨symbol, renewed, found, again, matching⟩
    · rw [own]
      cases first.ownReply name id with
      | absent => exact passed
      | found symbol => exact fun _ => .refl _
      | failed error => exact fun _ => .refl _
      | crashed crash => exact fun _ => .refl _
    · rw [found, again]
      exact fun _ => .inr ⟨symbol, renewed, rfl, rfl, matching⟩
  | resolver id =>
    obtain ⟨resolver, now, there, here, defined, parent, registry, localUnit⟩ := same
    simp only [replyOf, there, here, defined, parent, registry, localUnit]
    simp only [Session.asks, there, List.mem_append, List.mem_map, Option.mem_toList] at each
    have units : List.Forall₂ Covers
        (resolver.registry.recentFirst.map fun unit => reply (.unit unit))
        (resolver.registry.recentFirst.map fun unit => other (.unit unit)) := by
      rw [List.forall₂_map_left_iff, List.forall₂_map_right_iff]
      refine List.forall₂_same.mpr fun unit member => each _ (.inl (.inr ?_))
      obtain ⟨entry, listed, rfl⟩ := List.mem_map.mp (List.mem_reverse.mp member)
      exact ⟨entry, listed, rfl⟩
    exact Answer.firstHit_covers
      (.cons (fun _ => .refl _) (.cons (replyOf?_covers fun asked member =>
          each asked (.inl (.inl member)))
        (List.rel_append units (.cons (replyOf?_covers fun asked member =>
          each asked (.inr member)) .nil))))

end

/-! ## Sessions that learnt more -/

/-- A symbol under a name that a loader finds itself, but for its number. -/
def Finds (session : Session) (loader : Loader) (entry : String × Symbol) : Prop :=
  ∃ symbol, session.reply entry.1 loader = .found symbol ∧ symbol.Matches entry.2

/-- The later session has the loaders of the earlier one, with nothing changed but busy threads and
with no more symbols remembered than, of the loaders asked, such as they found then. -/
structure Learnt (asked : Loader → Prop) (start session : Session) : Prop where
  systems : session.systems = start.systems
  units : ∀ id unit, start.units.get? id = some unit → ∃ learnt,
    session.units.get? id = some { unit with resolved := unit.resolved ++ learnt } ∧
      (asked (.unit id) → ∀ entry ∈ learnt, start.Finds (.unit id) entry)
  resolvers : ∀ id resolver, start.resolvers.get? id = some resolver → ∃ busy learnt,
    session.resolvers.get? id =
        some { resolver with busy, defined := resolver.defined ++ learnt } ∧
      (asked (.resolver id) → ∀ entry ∈ learnt, start.Finds (.resolver id) entry)

theorem Learnt.refl (asked : Loader → Prop) (start : Session) : Learnt asked start start where
  systems := rfl
  units id unit there := ⟨[], by simpa using there, fun _ _ member => by cases member⟩
  resolvers id resolver there :=
    ⟨resolver.busy, [], by simpa using there, fun _ _ member => by cases member⟩

/-- Changes of anything else teach nothing. -/
theorem Learnt.same {asked : Loader → Prop} {start session after : Session}
    (learnt : Learnt asked start session) (units : after.units = session.units)
    (resolvers : after.resolvers = session.resolvers) (systems : after.systems = session.systems) :
    Learnt asked start after where
  systems := systems.trans learnt.systems
  units := units ▸ learnt.units
  resolvers := resolvers ▸ learnt.resolvers

/-- The loaders asked are there, they ask no others, and the artifacts that they read from are shown
in a part of the tree. -/
structure Intact (start : Session) (part : Files) (asked : Loader → Prop) : Prop where
  closed : ∀ loader, asked loader → ∀ other ∈ start.asks loader, asked other
  units : ∀ id, asked (.unit id) → ∃ unit, start.units.get? id = some unit ∧
    ∀ index, unit.content = .archive index → ∃ found, part.shown? unit.artifact = some found
  resolvers : ∀ id, asked (.resolver id) → ∃ resolver, start.resolvers.get? id = some resolver

section

variable {asked : Loader → Prop} {start session : Session} {part : Files} {name : String}

/-- A unit whose artifact is shown alike has the same for a name that it has not learnt. -/
theorem ownReply_matches {id : Nat} {unit : LoadedUnit} {learnt : List (String × Symbol)}
    (there : start.units.get? id = some unit)
    (here : session.units.get? id = some { unit with resolved := unit.resolved ++ learnt })
    (unlearnt : (unit.resolved ++ learnt).lookup name = unit.resolved.lookup name)
    (bodies : ∀ index entry, unit.content = .archive index →
      UnitContent.readBody session.files unit.artifact entry =
        UnitContent.readBody start.files unit.artifact entry) :
    (start.ownReply name id).Matches (session.ownReply name id) := by
  have made : ∀ body, Answer.Matches (.found ⟨name, unit.name, body, start.fresh⟩)
      (.found ⟨name, unit.name, body, session.fresh⟩) :=
    fun body => .inr ⟨_, _, rfl, rfl, rfl⟩
  simp only [ownReply, there, here, unlearnt]
  cases unit.resolved.lookup name with
  | some symbol => exact .refl _
  | none =>
    dsimp only
    cases content : unit.content with
    | archive index =>
      dsimp only
      cases index.lookup name with
      | none => exact .refl _
      | some entry =>
        dsimp only
        rw [bodies index entry content]
        cases UnitContent.readBody start.files unit.artifact entry with
        | body content => exact made (.bytecode content)
        | failed error => exact .refl _
        | crashed crash => exact .refl _
    | native exports =>
      dsimp only
      split
      · exact .refl _
      · split
        · exact made .native
        · exact .refl _

/-- A symbol under a name was learnt, or the name is looked up as before. -/
theorem lookup_append (known learnt : List (String × Symbol)) (name : String) :
    (∃ symbol, (name, symbol) ∈ learnt ∧ (known ++ learnt).lookup name = some symbol) ∨
      (known ++ learnt).lookup name = known.lookup name := by
  rw [List.lookup_append]
  cases known.lookup name with
  | some symbol => exact .inr rfl
  | none =>
    cases found : learnt.lookup name with
    | none => exact .inr rfl
    | some symbol =>
      obtain ⟨before, after, rfl, _⟩ := List.lookup_eq_some_iff.mp found
      exact .inl ⟨symbol, by simp, rfl⟩

variable (learnt : Learnt asked start session) (intact : Intact start part asked)
  (first : Survives part start.files) (now : Survives part session.files)
include learnt intact first now

/-- A loader asked has learnt a symbol for the name, or it has the same for it as before. -/
theorem Learnt.sameAt (name : String) {loader : Loader} (member : asked loader) :
    (∃ symbol, start.Finds loader (name, symbol) ∧
        ∀ reply, replyOf session name reply loader = .found symbol) ∨
      SameAt name start session loader := by
  cases loader with
  | failing => exact .inr trivial
  | system id => exact .inr learnt.systems
  | unit id =>
    obtain ⟨unit, there, shown⟩ := intact.units id member
    obtain ⟨more, here, sound⟩ := learnt.units id unit there
    rcases lookup_append unit.resolved more name with ⟨symbol, among, known⟩ | unlearnt
    · refine .inl ⟨symbol, sound member _ among, fun reply => ?_⟩
      simp only [replyOf, ownReply, here, known]
    · refine .inr ⟨ownReply_matches there here unlearnt fun index entry content => ?_, ?_⟩
      · obtain ⟨found, shown⟩ := shown index content
        rw [now.readBody shown, first.readBody shown]
      · rw [there, here]
        rfl
  | resolver id =>
    obtain ⟨resolver, there⟩ := intact.resolvers id member
    obtain ⟨busy, more, here, sound⟩ := learnt.resolvers id resolver there
    rcases lookup_append resolver.defined more name with ⟨symbol, among, known⟩ | unlearnt
    · refine .inl ⟨symbol, sound member _ among, fun reply => ?_⟩
      simp only [replyOf, definedReply, here, known]
      rfl
    · refine .inr ⟨resolver, _, there, here, ?_, rfl, rfl, rfl⟩
      simp only [definedReply, unlearnt]

/-- What the loaders asked answered before at some depth, they answer now. -/
theorem Learnt.covers (name : String) (depth : Nat) {loader : Loader} (member : asked loader) :
    Covers (start.replyWithin name depth loader) (session.reply name loader) := by
  induction depth generalizing loader with
  | zero => exact fun ended => absurd rfl ended
  | succ depth inductionHypothesis =>
    rcases learnt.sameAt intact first now name member with ⟨symbol, finds, found⟩ | same
    · intro ended
      obtain ⟨other, answered, matching⟩ := finds
      rw [← reply_of_within start name (depth + 1) loader ended, answered, reply_eq, found]
      exact .inr ⟨other, symbol, rfl, rfl, matching⟩
    · rw [replyWithin_succ, reply_eq]
      exact replyOf_covers same fun other among =>
        inductionHypothesis (intact.closed loader member other among)

/-- What they answer now at some depth, they answered before. -/
theorem Learnt.covered (name : String) (depth : Nat) {loader : Loader} (member : asked loader) :
    Covers (session.replyWithin name depth loader) (start.reply name loader) := by
  induction depth generalizing loader with
  | zero => exact fun ended => absurd rfl ended
  | succ depth inductionHypothesis =>
    rcases learnt.sameAt intact first now name member with ⟨symbol, finds, found⟩ | same
    · intro ended
      obtain ⟨other, answered, matching⟩ := finds
      rw [replyWithin_succ, found, answered]
      exact .inr ⟨symbol, other, rfl, rfl, matching.symm⟩
    · rw [replyWithin_succ, reply_eq]
      refine replyOf_covers same.symm fun other among => ?_
      rw [same.asks] at among
      exact inductionHypothesis (intact.closed loader member other among)

/-- The loaders asked answer as before, but for the numbers of symbols. -/
theorem Learnt.reply (name : String) {loader : Loader} (member : asked loader) :
    (start.reply name loader).Matches (session.reply name loader) := by
  by_cases ended : start.reply name loader = .crashed .endless
  · by_cases late : session.reply name loader = .crashed .endless
    · rw [ended, late]
      exact .refl _
    · exact (learnt.covered intact first now name _ member late).symm
  · exact learnt.covers intact first now name _ member ended

end

/-! ## What a look-up adds -/

/-- A session that learnt no more, in whose tree the part is as it was. -/
structure Informed (asked : Loader → Prop) (start : Session) (part : Files) (session : Session) :
    Prop where
  learnt : Learnt asked start session
  files : Survives part session.files

section

variable {asked : Loader → Prop} {start session : Session} {part : Files} {name : String}

theorem Informed.log (informed : Informed asked start part session) (events : List Event) :
    Informed asked start part (session.log events) where
  learnt := informed.learnt.same rfl rfl rfl
  files := informed.files

/-- A loader remembers what it found before. -/
theorem Informed.remember (informed : Informed asked start part session) {id : Nat}
    {symbol : Symbol}
    (finds : asked (.resolver id) →
      start.Finds (.resolver id) (name, (session.remember id name symbol).2)) :
    Informed asked start part (session.remember id name symbol).1 := by
  unfold Session.remember at finds ⊢
  split
  · exact informed
  · next resolver there =>
    simp only [there] at finds
    split
    · exact informed
    · next unlearnt =>
      simp only [unlearnt] at finds
      refine ⟨⟨informed.learnt.systems, informed.learnt.units, fun other row early => ?_⟩,
        informed.files⟩
      obtain ⟨busy, learnt, here, sound⟩ := informed.learnt.resolvers other row early
      simp only [updateResolver, Table.get?_update, here]
      split
      · next same =>
        subst same
        refine ⟨busy, learnt ++ [(name, symbol)], by simp, fun member entry among => ?_⟩
        rcases List.mem_append.mp among with earlier | added
        · exact sound member entry earlier
        · obtain rfl := List.mem_singleton.mp added
          exact finds member
      · exact ⟨busy, learnt, rfl, sound⟩

variable (intact : Intact start part asked) (first : Survives part start.files)
include intact first

/-- A unit remembers the symbol that it makes, and would have found it before. -/
theorem Informed.makeSymbol (informed : Informed asked start part session) {id : Nat}
    {unit : String} {body : SymbolBody}
    (own : session.ownReply name id = .found ⟨name, unit, body, session.fresh⟩) :
    Informed asked start part (session.makeSymbol id name unit body).1 := by
  refine ⟨⟨informed.learnt.systems, fun other row early => ?_, informed.learnt.resolvers⟩,
    informed.files⟩
  obtain ⟨learnt, here, sound⟩ := informed.learnt.units other row early
  simp only [Session.makeSymbol, number, rememberIn, Table.get?_update, here]
  split
  · next same =>
    subst same
    refine ⟨learnt ++ [(name, _)], by simp; rfl, fun member entry among => ?_⟩
    rcases List.mem_append.mp among with earlier | added
    · exact sound member entry earlier
    · obtain rfl := List.mem_singleton.mp added
      have answered : session.reply name (.unit other) =
          .found ⟨name, unit, body, session.fresh⟩ := by
        rw [reply_eq, replyOf, own]
      obtain ⟨found, before, matching⟩ :=
        (informed.learnt.reply intact first informed.files name member).symm.found answered
      exact ⟨found, before, matching.symm⟩
  · exact ⟨learnt, rfl, sound⟩

/-- Look-ups leave a session informed: what a resolver remembers of its local unit is what it answers
then. -/
theorem informed_steady : Steady (Informed asked start part) where
  log := Informed.log
  makeSymbol informed _ _ _ _ own := informed.makeSymbol intact first own
  remember now later _ _ _ _ depth _ _ found := by
    refine later.remember fun member => ?_
    have ended := reply_of_within _ _ (depth + 1) _ (by rw [found]; simp)
    obtain ⟨other, before, matching⟩ :=
      (now.learnt.reply intact first now.files _ member).symm.found (ended.trans found)
    exact ⟨other, before, matching.symm⟩

/-- A look-up of any loader leaves a session informed. -/
theorem Informed.find (informed : Informed asked start part session) (loader : Loader)
    (name : String) : Informed asked start part (session.find loader name).1 :=
  (informed_steady intact first).find informed loader name

/-- A resolver that was asked loads every symbol that it loaded before. -/
theorem Informed.loadSymbol (informed : Informed asked start part session) {id : Nat}
    (member : asked (.resolver id)) {symbol : Symbol}
    (loaded : (start.loadSymbol id name).2 = .ok symbol) :
    ∃ other, (session.loadSymbol id name).2 = .ok other ∧ symbol.Matches other := by
  rw [loadSymbol_result] at loaded
  have found : start.reply name (.resolver id) = .found symbol := by
    cases answered : start.reply name (.resolver id) <;> simp_all [Answer.toResult]
  obtain ⟨other, now, matching⟩ :=
    (informed.learnt.reply intact first informed.files name member).found found
  exact ⟨other, by rw [loadSymbol_result, now]; rfl, matching⟩

end

end Session

end Hotload
