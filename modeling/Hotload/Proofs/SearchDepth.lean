import Hotload.Proofs.Answers
import Mathlib.Data.Finset.Card
import Mathlib.Order.Interval.Finset.Nat

/-!
# The depth bound of look-ups

`find` bounds the depth of a look-up by the number of loaders. This module shows that the bound is
never felt: whatever a look-up answers at any depth, it answers within the bound, so `find` satisfies
the equation that a search without any bound would satisfy.

The least depth at which a loader answers at all is its rank. A loader of rank `m + 2` has asked one
of rank `m + 1`, so the ranks that occur have no gap. Only units and resolvers that are in a table
ask others, hence there are not enough loaders for ranks beyond the bound.
-/

namespace Hotload

namespace Answer

/-- The second answer is the first one, unless the first is only the end of the depth. -/
def Settles (early late : Answer) : Prop :=
  early ≠ .crashed .endless → late = early

/-- Every answer settles itself. -/
theorem Settles.refl (answer : Answer) : Settles answer answer :=
  fun _ => rfl

/-- A search over settled answers is settled: up to its first hit, every step ended. -/
theorem firstHit_settles {early late : List Answer} (each : List.Forall₂ Settles early late) :
    Settles (firstHit early) (firstHit late) := by
  induction each with
  | nil => exact Settles.refl _
  | @cons first second rest others head tail inductionHypothesis =>
    intro ended
    by_cases missed : first.isMiss = true
    · have same : second = first := head (by rintro rfl; cases missed)
      simp only [firstHit, missed, ↓reduceIte, same] at ended ⊢
      exact inductionHypothesis ended
    · simp only [firstHit, missed, Bool.false_eq_true, ↓reduceIte] at ended ⊢
      have same : second = first := head ended
      simp [same, missed]

end Answer

namespace Session

open Answer (Settles)

/-- What a loader answers within a depth. -/
def replyWithin (session : Session) (name : String) (depth : Nat) (loader : Loader) : Answer :=
  (askWithin depth session loader name).2

/-- One level more passes on what is answered within the level. -/
theorem replyWithin_succ (session : Session) (name : String) (depth : Nat) (loader : Loader) :
    session.replyWithin name (depth + 1) loader =
      replyOf session name (session.replyWithin name depth) loader :=
  (askLoader_comes (askWithin_orderly depth) session loader name).gives

/-- A loader that need not be there is settled as the one that is. -/
theorem replyOf?_settles {early late : Loader → Answer}
    (each : ∀ loader, Settles (early loader) (late loader)) (loader : Option Loader) :
    Settles (replyOf? early loader) (replyOf? late loader) := by
  cases loader with
  | none => exact Settles.refl _
  | some loader => exact each loader

/-- Settled answers of all loaders settle the answer of a loader that asks them. -/
theorem replyOf_settles (session : Session) (name : String) {early late : Loader → Answer}
    (each : ∀ loader, Settles (early loader) (late loader)) (loader : Loader) :
    Settles (replyOf session name early loader) (replyOf session name late loader) := by
  cases loader with
  | failing => exact Settles.refl _
  | system id => exact Settles.refl _
  | unit id =>
    simp only [replyOf]
    cases session.ownReply name id with
    | absent => exact replyOf?_settles each _
    | found symbol => exact Settles.refl _
    | failed error => exact Settles.refl _
    | crashed crash => exact Settles.refl _
  | resolver id =>
    simp only [replyOf]
    cases session.resolvers.get? id with
    | none => exact Settles.refl _
    | some resolver =>
      have units : List.Forall₂ Settles
          (resolver.registry.recentFirst.map fun unit => early (.unit unit))
          (resolver.registry.recentFirst.map fun unit => late (.unit unit)) := by
        rw [List.forall₂_map_left_iff, List.forall₂_map_right_iff]
        exact List.forall₂_same.mpr fun unit _ => each (.unit unit)
      have last : List.Forall₂ Settles [replyOf? early resolver.localUnit]
          [replyOf? late resolver.localUnit] :=
        .cons (replyOf?_settles each resolver.localUnit) .nil
      exact Answer.firstHit_settles
        (.cons (Settles.refl _) (.cons (replyOf?_settles each resolver.parent)
          (List.rel_append units last)))

/-- More depth keeps every answer that was reached. -/
theorem replyWithin_settles (session : Session) (name : String) {less more : Nat}
    (deeper : less ≤ more) (loader : Loader) :
    Settles (session.replyWithin name less loader) (session.replyWithin name more loader) := by
  induction less generalizing more loader with
  | zero =>
    intro ended
    exact absurd rfl ended
  | succ less inductionHypothesis =>
    obtain ⟨more, rfl⟩ : ∃ shallower, more = shallower + 1 := ⟨more - 1, by omega⟩
    rw [replyWithin_succ, replyWithin_succ]
    exact replyOf_settles session name
      (fun loader => inductionHypothesis (by omega) loader) loader

/-- Nothing ends at the next depth that does not end at this one. -/
def Exhausts (session : Session) (name : String) (depth : Nat) : Prop :=
  ∀ loader, Settles (session.replyWithin name (depth + 1) loader)
    (session.replyWithin name depth loader)

/-- Once a depth brings nothing new, no greater one does. -/
theorem Exhausts.later {session : Session} {name : String} {depth deeper : Nat}
    (exhausted : session.Exhausts name depth) (later : depth ≤ deeper) :
    session.Exhausts name deeper := by
  induction deeper, later using Nat.le_induction with
  | base => exact exhausted
  | succ deeper _ inductionHypothesis =>
    intro loader
    rw [replyWithin_succ, replyWithin_succ session name deeper]
    exact replyOf_settles session name inductionHypothesis loader

/-- The loaders that ask others: the units and resolvers in the tables. -/
def askingLoaders (session : Session) : List Loader :=
  session.units.map (fun entry => .unit entry.1)
    ++ session.resolvers.map (fun entry => .resolver entry.1)

/-- A loader outside the tables answers alike, whatever others answer. -/
theorem replyOf_outside (session : Session) (name : String) (loader : Loader)
    (outside : loader ∉ session.askingLoaders) (reply other : Loader → Answer) :
    replyOf session name reply loader = replyOf session name other loader := by
  cases loader with
  | failing => rfl
  | system id => rfl
  | unit id =>
    have missing : session.units.get? id = none := by
      rw [← Option.not_isSome_iff_eq_none]
      intro present
      have listed : id ∈ session.units.map (·.1) := Table.has_iff.mp present
      exact outside (by simpa [askingLoaders] using listed)
    simp [replyOf, ownReply, missing, replyOf?]
  | resolver id =>
    have missing : session.resolvers.get? id = none := by
      rw [← Option.not_isSome_iff_eq_none]
      intro present
      have listed : id ∈ session.resolvers.map (·.1) := Table.has_iff.mp present
      exact outside (by simpa [askingLoaders] using listed)
    simp [replyOf, missing]

/-- A depth that still brings something new brings it for a loader that asks others. -/
theorem exists_rank (session : Session) (name : String) (depth : Nat) (positive : 1 ≤ depth)
    (unfinished : ¬session.Exhausts name depth) :
    ∃ loader ∈ session.askingLoaders,
      session.replyWithin name (depth + 1) loader ≠ .crashed .endless ∧
        session.replyWithin name depth loader = .crashed .endless := by
  obtain ⟨loader, unsettled⟩ := not_forall.mp unfinished
  obtain ⟨ended, differs⟩ := Classical.not_imp.mp unsettled
  have open_ : session.replyWithin name depth loader = .crashed .endless := by
    by_contra early
    exact differs (replyWithin_settles session name (Nat.le_succ depth) loader early).symm
  refine ⟨loader, ?_, ended, open_⟩
  by_contra outside
  obtain ⟨shallower, rfl⟩ : ∃ shallower, depth = shallower + 1 := ⟨depth - 1, by omega⟩
  apply ended
  rw [replyWithin_succ, replyOf_outside session name loader outside _
    (session.replyWithin name shallower), ← replyWithin_succ, open_]

/-- The ranks of the loaders that ask others cannot fill all depths up to their number. -/
theorem exists_exhausts (session : Session) (name : String) :
    ∃ depth ≤ session.askingLoaders.length + 1, session.Exhausts name depth := by
  by_contra none_
  have unfinished : ∀ depth ∈ Finset.Icc 1 (session.askingLoaders.length + 1),
      ∃ loader ∈ session.askingLoaders,
        session.replyWithin name (depth + 1) loader ≠ .crashed .endless ∧
          session.replyWithin name depth loader = .crashed .endless := by
    intro depth within
    obtain ⟨positive, bounded⟩ := Finset.mem_Icc.mp within
    exact exists_rank session name depth positive fun exhausted => none_ ⟨depth, bounded, exhausted⟩
  have : Nonempty Loader := ⟨.failing⟩
  choose! ranked asks ended open_ using unfinished
  have crowded : session.askingLoaders.toFinset.card <
      (Finset.Icc 1 (session.askingLoaders.length + 1)).card := by
    rw [Nat.card_Icc]
    have few := List.toFinset_card_le session.askingLoaders
    omega
  obtain ⟨first, firstWithin, second, secondWithin, different, same⟩ :=
    Finset.exists_ne_map_eq_of_card_lt_of_maps_to crowded
      (fun depth within => List.mem_toFinset.mpr (asks depth within))
  -- One loader cannot end first at two depths, because what ended stays ended.
  have clash : ∀ low high, low ∈ Finset.Icc 1 (session.askingLoaders.length + 1) →
      high ∈ Finset.Icc 1 (session.askingLoaders.length + 1) → low < high →
        ranked low ≠ ranked high := by
    intro low high lowWithin highWithin less equal
    have kept := replyWithin_settles session name (Nat.succ_le_of_lt less) (ranked low)
      (ended low lowWithin)
    rw [equal, open_ high highWithin] at kept
    exact ended low lowWithin (equal ▸ kept.symm)
  rcases Nat.lt_or_gt_of_ne different with less | less
  · exact clash first second firstWithin secondWithin less same
  · exact clash second first secondWithin firstWithin less same.symm

/-- The bound of `find` is deep enough for everything that ends at any depth. -/
theorem find_exhausts (session : Session) (name : String) :
    session.Exhausts name (session.loaderCount + 1) := by
  obtain ⟨depth, bounded, exhausted⟩ := session.exists_exhausts name
  apply exhausted.later
  simp only [askingLoaders, List.length_append, List.length_map] at bounded
  unfold loaderCount
  omega

/-- What a loader answers. -/
def reply (session : Session) (name : String) (loader : Loader) : Answer :=
  (session.find loader name).2

/-- The equation of a look-up without any bound: a loader answers by what the loaders answer that it
asks. -/
theorem reply_eq (session : Session) (name : String) (loader : Loader) :
    session.reply name loader = replyOf session name (session.reply name) loader := by
  have deeper : replyOf session name (session.reply name) loader =
      session.replyWithin name (session.loaderCount + 1 + 1) loader :=
    (replyWithin_succ session name (session.loaderCount + 1) loader).symm
  rw [deeper]
  by_cases ended : session.replyWithin name (session.loaderCount + 1 + 1) loader = .crashed .endless
  · rw [ended]
    by_contra early
    have kept := replyWithin_settles session name
      (Nat.le_succ (session.loaderCount + 1)) loader early
    exact early (kept.symm.trans ended)
  · exact session.find_exhausts name loader ended

end Session

end Hotload
