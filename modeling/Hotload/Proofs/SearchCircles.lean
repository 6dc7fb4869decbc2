import Hotload.Proofs.OlderParents
import Mathlib.Algebra.GroupWithZero.Nat
import Mathlib.Data.Set.Finite.Lattice
import Mathlib.Logic.Relation

/-!
# Searches that go round in a circle

A loader that is asked for a symbol asks others in turn, each when those before it missed. Such a
search ends just if the loaders that it comes to ask do not lead in a circle. Nothing prevents a
circle: a resolver may be chosen as its own local unit. But every circle leads through a local unit.
Without the local units the search descends, because a parent is older than who has it, and a
registered unit asks none but the parent of its resolver.

What the recursion of a look-up does is told by `replyWithin`, where the depth stands for the calls
that are under way. `Asked` and `Ends` speak of the loaders and of the number of look-ups instead.
-/

namespace Hotload

namespace Session

open Relation (ReflTransGen TransGen)

variable {session : Session} {name : String} {loader : Loader}

/-! ## Who is asked -/

/-- The loaders of a list that are asked in turn: those up to the first that has the symbol, or that
does not come back. -/
def upToHit (reply : Loader → Answer) : List Loader → List Loader
  | [] => []
  | loader :: rest => if (reply loader).isMiss then loader :: upToHit reply rest else [loader]

/-- Whom a loader may ask, in this order, when it has to ask others. -/
def candidates (session : Session) (name : String) : Loader → List Loader
  | .failing | .system _ => []
  | .unit id =>
    if session.ownReply name id = .absent then ((session.units.get? id).bind (·.parent)).toList
    else []
  | .resolver id =>
    match session.resolvers.get? id with
    | none => []
    | some resolver =>
      if (resolver.defined.lookup name).isSome then []
      else resolver.parent.toList ++ resolver.registry.recentFirst.map .unit
        ++ resolver.localUnit.toList

/-- Whom a loader asks for a symbol, given what all loaders answer. -/
def askedBy (session : Session) (name : String) (reply : Loader → Answer) (loader : Loader) :
    List Loader :=
  upToHit reply (session.candidates name loader)

/-- A loader asks another one for a symbol. -/
def Asks (session : Session) (name : String) (asking asked : Loader) : Prop :=
  asked ∈ session.askedBy name (session.reply name) asking

/-- A search that starts at a loader ends after the given number of look-ups: that of the loader
itself and those that come with the loaders it asks. -/
inductive Ends (session : Session) (name : String) : Loader → Nat → Prop where
  | ask {loader : Loader} (lookups : Loader → Nat)
      (each : ∀ asked, session.Asks name loader asked → Ends session name asked (lookups asked)) :
      Ends session name loader
        (1 + ((session.askedBy name (session.reply name) loader).map lookups).sum)

theorem upToHit_subset (reply : Loader → Answer) (loaders : List Loader) :
    upToHit reply loaders ⊆ loaders := by
  induction loaders with
  | nil => exact List.Subset.refl _
  | cons first rest inductionHypothesis =>
    unfold upToHit
    split
    · exact List.cons_subset_cons first inductionHypothesis
    · simp

/-- Loaders that answer alike as far as they are asked are asked alike. -/
theorem upToHit_congr {reply other : Loader → Answer} {loaders : List Loader}
    (same : ∀ loader ∈ upToHit reply loaders, other loader = reply loader) :
    upToHit other loaders = upToHit reply loaders := by
  induction loaders with
  | nil => rfl
  | cons first rest inductionHypothesis =>
    have head : other first = reply first := by
      apply same
      unfold upToHit
      split <;> simp
    unfold upToHit at same ⊢
    rw [head]
    split
    · next missed =>
      rw [if_pos missed] at same
      rw [inductionHypothesis fun loader asked => same loader (List.mem_cons_of_mem _ asked)]
    · rfl

/-! ## Which searches do not come back -/

/-- A search in turn crashes exactly if one that is asked does. -/
theorem firstHit_crashed_iff (reply : Loader → Answer) (loaders : List Loader) (crash : Crash) :
    Answer.firstHit (loaders.map reply) = .crashed crash ↔
      ∃ loader ∈ upToHit reply loaders, reply loader = .crashed crash := by
  induction loaders with
  | nil => simp [Answer.firstHit, upToHit]
  | cons first rest inductionHypothesis =>
    rw [List.map_cons, Answer.firstHit, upToHit]
    split
    · next missed =>
      have back : reply first ≠ .crashed crash := by
        intro crashed
        rw [crashed] at missed
        cases missed
      simp [inductionHypothesis, back]
    · simp

theorem ownReply_ne_endless (session : Session) (name : String) (id : Nat) :
    session.ownReply name id ≠ .crashed .endless := by
  unfold ownReply
  split
  · simp
  · next unit _ =>
    split
    · simp
    · split
      · split
        · simp
        · next entry _ =>
          split
          · simp
          · simp
          · next crash crashed =>
            unfold UnitContent.readBody at crashed
            grind
      · split
        · simp
        · split <;> simp

/-- In a search in turn, one that need not be there counts only if there. -/
theorem firstHit_replyOf? (reply : Loader → Answer) (before : List Answer) (loader : Option Loader)
    (after : List Answer) :
    Answer.firstHit (before ++ replyOf? reply loader :: after) =
      Answer.firstHit (before ++ loader.toList.map reply ++ after) := by
  rw [List.append_assoc, Answer.firstHit_append, Answer.firstHit_append before]
  cases loader <;> rfl

/-- A loader crashes exactly if it is a unit that does so itself, or if one that it asks crashes. -/
theorem replyOf_crashed_iff (session : Session) (name : String) (reply : Loader → Answer)
    (loader : Loader) (crash : Crash) :
    replyOf session name reply loader = .crashed crash ↔
      (∃ id, loader = .unit id ∧ session.ownReply name id = .crashed crash) ∨
        ∃ asked ∈ session.askedBy name reply loader, reply asked = .crashed crash := by
  unfold askedBy
  cases loader with
  | failing => simp [replyOf, candidates, upToHit]
  | system id =>
    simp only [replyOf, candidates, upToHit]
    split <;> simp
  | unit id =>
    simp only [replyOf, candidates]
    cases own : session.ownReply name id with
    | absent =>
      cases (session.units.get? id).bind (·.parent) with
      | none => simp [own, replyOf?, upToHit]
      | some parent => simp [own, replyOf?, upToHit]
    | found | failed | crashed => simp [own, upToHit]
  | resolver id =>
    simp only [replyOf, candidates]
    cases session.resolvers.get? id with
    | none => simp [upToHit]
    | some resolver =>
      cases remembered : resolver.defined.lookup name with
      | some symbol => simp [definedReply, remembered, Answer.firstHit, Answer.isMiss, upToHit]
      | none =>
        dsimp only
        rw [← firstHit_crashed_iff, remembered, if_neg (by simp), List.map_append, List.map_append,
          List.map_map]
        have forgotten : definedReply resolver name = .absent := by simp [definedReply, remembered]
        have first := firstHit_replyOf? reply [] resolver.parent
          (resolver.registry.recentFirst.map (fun unit => reply (.unit unit))
            ++ [replyOf? reply resolver.localUnit])
        have last := firstHit_replyOf? reply (resolver.parent.toList.map reply
          ++ resolver.registry.recentFirst.map (fun unit => reply (.unit unit)))
            resolver.localUnit []
        rw [forgotten]
        simp only [List.nil_append, List.append_nil, List.append_assoc, reduceCtorEq, false_and,
          exists_false, false_or] at first last ⊢
        exact Eq.congr_left (first.trans last)

/-- What a loader answers does not come back exactly if one that it asks does not come back. -/
theorem replyOf_endless_iff (session : Session) (name : String) (reply : Loader → Answer)
    (loader : Loader) :
    replyOf session name reply loader = .crashed .endless ↔
      ∃ asked ∈ session.askedBy name reply loader, reply asked = .crashed .endless := by
  simp [replyOf_crashed_iff, ownReply_ne_endless]

/-- What is answered within a depth is what is answered. -/
theorem replyWithin_settles_reply (session : Session) (name : String) (depth : Nat)
    (loader : Loader) :
    Answer.Settles (session.replyWithin name depth loader) (session.reply name loader) := by
  induction depth generalizing loader with
  | zero =>
    intro ended
    exact absurd rfl ended
  | succ depth inductionHypothesis =>
    rw [replyWithin_succ, reply_eq]
    exact replyOf_settles session name inductionHypothesis loader

/-! ## Searches that end -/

/-- With a search that ends, the searches of all loaders that it reaches end. -/
theorem Ends.reached {count : Nat} (ends : session.Ends name loader count) {other : Loader}
    (reached : ReflTransGen (session.Asks name) loader other) :
    ∃ count, session.Ends name other count := by
  induction reached with
  | refl => exact ⟨count, ends⟩
  | tail _ asks inductionHypothesis =>
    obtain ⟨_, ends⟩ := inductionHypothesis
    cases ends with
    | ask lookups each => exact ⟨_, each _ asks⟩

/-- How high a loader stands: above its parent, and a resolver above its units as well. -/
def height (session : Session) : Loader → Nat
  | .failing | .system _ => 0
  | .resolver id => 2 * (id + 1)
  | .unit id =>
    match (session.units.get? id).bind (·.parent) with
    | none => 0
    | some parent => 2 * parent.nextNumber + 1

@[simp] theorem height_resolver (session : Session) (id : Nat) :
    session.height (.resolver id) = 2 * (id + 1) := rfl

theorem height_unit {id : Nat} {parent : Loader}
    (above : (session.units.get? id).bind (·.parent) = some parent) :
    session.height (.unit id) = 2 * parent.nextNumber + 1 := by
  rw [height, above]

theorem height_unit_alone {id : Nat}
    (alone : (session.units.get? id).bind (·.parent) = none) : session.height (.unit id) = 0 := by
  rw [height, alone]

/-- A loader is the local unit of a resolver. -/
def IsLocalUnit (session : Session) (holder : Nat) (loader : Loader) : Prop :=
  (session.resolvers.get? holder).bind (·.localUnit) = some loader

instance (session : Session) (holder : Nat) (loader : Loader) :
    Decidable (session.IsLocalUnit holder loader) :=
  inferInstanceAs (Decidable (_ = _))

theorem Grounded.height_le (grounded : Grounded session) (loader : Loader) :
    session.height loader ≤ 2 * loader.nextNumber := by
  cases loader with
  | failing | system | resolver => simp [height, Loader.nextNumber]
  | unit id =>
    cases above : (session.units.get? id).bind (·.parent) with
    | none =>
      rw [height_unit_alone above]
      exact Nat.zero_le _
    | some parent =>
      have older : parent.nextNumber ≤ id := grounded.units id parent above
      rw [height_unit above]
      change 2 * parent.nextNumber + 1 ≤ 2 * (id + 1)
      omega

/-- Whom a loader asks stands lower, unless a resolver asks its local unit. -/
theorem Asks.descends (wired : Wired session) (grounded : Grounded session) {asking asked : Loader}
    (asks : session.Asks name asking asked) :
    session.height asked < session.height asking ∨
      ∃ holder, asking = .resolver holder ∧ session.IsLocalUnit holder asked := by
  have candidate := upToHit_subset _ _ asks
  cases asking with
  | failing | system => simp [candidates] at candidate
  | unit id =>
    simp only [candidates] at candidate
    split at candidate
    · have low := grounded.height_le asked
      left
      rw [height_unit (Option.mem_toList.mp candidate)]
      omega
    · cases candidate
  | resolver id =>
    simp only [candidates] at candidate
    split at candidate
    · cases candidate
    · next resolver present =>
      have older : ∀ parent ∈ resolver.parent, parent.nextNumber ≤ id := fun parent above =>
        grounded.resolvers id parent (by rw [present]; exact above)
      split at candidate
      · cases candidate
      · rcases List.mem_append.mp candidate with early | last
        · left
          rcases List.mem_append.mp early with parent | registered
          · have low := grounded.height_le asked
            have less := older asked (Option.mem_toList.mp parent)
            rw [height_resolver]
            omega
          · obtain ⟨unit, listed, rfl⟩ := List.mem_map.mp registered
            obtain ⟨there, known, joined⟩ := wired.joined id resolver present unit
              (by simpa [Registry.recentFirst] using listed)
            have chosen : (session.units.get? unit).bind (·.parent) = resolver.parent := by
              rw [known, Option.bind_some, joined]
            rw [height_resolver]
            cases above : resolver.parent with
            | none =>
              rw [height_unit_alone (chosen.trans above)]
              omega
            | some parent =>
              have less := older parent above
              rw [height_unit (chosen.trans above)]
              omega
        · exact .inr ⟨id, rfl, by rw [IsLocalUnit, present]; exact Option.mem_toList.mp last⟩

end Session

end Hotload
