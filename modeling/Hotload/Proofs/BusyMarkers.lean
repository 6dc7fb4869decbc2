import Hotload.Proofs.FailedCompiles
import Mathlib.Data.List.Dedup
import Mathlib.Data.List.Perm.Basic

/-!
# Markers of busy threads

Markers are made for a thread and dropped in any order, on any thread, also when a stack unwinds. A
set of busy threads counts them: it has an entry for every thread with a live marker, and for no
other, and the entry says how many they are.
-/

namespace Hotload

namespace BusySet

/-- A set of busy threads counts live markers, of which each is listed by its thread. -/
structure Counts (busy : BusySet) (live : List Thread) : Prop where
  distinct : (busy.map (·.1)).Nodup
  lookup : ∀ thread, busy.lookup thread =
    if thread ∈ live then some (live.count thread) else none

variable {busy : BusySet} {live : List Thread} {thread : Thread}

/-- Only how many markers each thread has matters. -/
theorem Counts.congr (counts : Counts busy live) {other : List Thread}
    (same : ∀ thread, other.count thread = live.count thread) : Counts busy other where
  distinct := counts.distinct
  lookup thread := by
    have member : thread ∈ other ↔ thread ∈ live := by
      rw [← List.count_pos_iff, ← List.count_pos_iff, same]
    simp only [counts.lookup, member, same]

theorem counts_nil : Counts [] [] :=
  ⟨List.nodup_nil, fun _ => rfl⟩

/-- Setting a number leaves the threads that are in the set. -/
theorem threads_setDepth (busy : BusySet) (thread : Thread) (depth : Nat) :
    (busy.setDepth thread depth).map (·.1) = busy.map (·.1) := by
  unfold setDepth
  rw [List.map_map]
  refine List.map_congr_left fun entry _ => ?_
  by_cases here : entry.1 = thread <;> simp [here]

/-- A thread that the set does not know has no entry. -/
theorem notMem_of_lookup (unknown : busy.lookup thread = none) : thread ∉ busy.map (·.1) := by
  intro listed
  obtain ⟨⟨_, depth⟩, entry, rfl⟩ := List.mem_map.mp listed
  exact absurd rfl (bne_iff_ne.mp (List.lookup_eq_none_iff.mp unknown _ entry))

/-- A marker that is made is counted. -/
theorem Counts.enter (counts : Counts busy live) (thread : Thread) :
    Counts (busy.enter thread) (thread :: live) := by
  unfold BusySet.enter
  have known := counts.lookup thread
  split
  · next depth present =>
    rw [present] at known
    have alive : thread ∈ live := by
      by_contra absent
      simp [absent] at known
    have depthIs : depth = live.count thread := by simpa [alive] using known
    refine ⟨by rw [threads_setDepth]; exact counts.distinct, fun other => ?_⟩
    rw [lookup_setDepth, counts.lookup]
    by_cases same : other = thread
    · simp [same, alive, depthIs]
    · simp [same, List.count_cons_of_ne (Ne.symm same)]
  · next absent =>
    have dead : thread ∉ live := by
      intro alive
      rw [absent, if_pos alive] at known
      cases known
    refine ⟨?_, fun other => ?_⟩
    · rw [List.map_append]
      exact List.nodup_append'.mpr ⟨counts.distinct, List.nodup_singleton _,
        List.disjoint_singleton.mpr (notMem_of_lookup absent)⟩
    · rw [List.lookup_append, counts.lookup]
      by_cases same : other = thread
      · subst same
        simp [dead, List.count_eq_zero_of_not_mem dead]
      · have apart : (other == thread) = false := by simpa using same
        by_cases alive : other ∈ live <;>
          simp [same, alive, List.lookup_cons, apart, List.count_cons_of_ne (Ne.symm same)]

/-- A live marker that is dropped is no longer counted. -/
theorem Counts.leave (counts : Counts busy live) (alive : thread ∈ live) :
    Counts (busy.leave thread) (live.erase thread) := by
  have known := counts.lookup thread
  rw [if_pos alive] at known
  have positive := List.count_pos_iff.mpr alive
  have others (other : Thread) (apart : other ≠ thread) :
      (if other ∈ live.erase thread then some ((live.erase thread).count other) else none) =
        busy.lookup other := by
    rw [counts.lookup, List.count_erase_of_ne apart]
    simp [List.mem_erase_of_ne apart]
  have own : thread ∈ live.erase thread ↔ 1 < live.count thread := by
    rw [← List.count_pos_iff, List.count_erase_self]
    omega
  unfold BusySet.leave
  simp only [known]
  split
  · next last =>
    refine ⟨counts.distinct.sublist (List.filter_sublist.map _), fun other => ?_⟩
    rw [lookup_drop]
    by_cases same : other = thread
    · subst same
      rw [if_pos rfl, if_neg (fun remains => absurd (own.mp remains) (Nat.not_lt.mpr last))]
    · rw [if_neg same, others other same]
  · next more =>
    refine ⟨by rw [threads_setDepth]; exact counts.distinct, fun other => ?_⟩
    rw [lookup_setDepth]
    by_cases same : other = thread
    · subst same
      rw [if_pos rfl, if_pos (own.mpr (Nat.lt_of_not_le more)), known, List.count_erase_self]
      rfl
    · rw [if_neg same, others other same]

theorem Counts.depth_eq (counts : Counts busy live) (thread : Thread) :
    busy.depth thread = live.count thread := by
  unfold depth
  rw [counts.lookup]
  by_cases alive : thread ∈ live
  · simp [alive]
  · simp [alive, List.count_eq_zero_of_not_mem alive]

theorem Counts.isBusy_iff (counts : Counts busy live) (thread : Thread) :
    busy.isBusy thread = true ↔ thread ∈ live := by
  unfold isBusy
  rw [counts.lookup]
  by_cases alive : thread ∈ live <;> simp [alive]

/-- Where every thread has one entry, it is the one that is found. -/
theorem lookup_of_mem (distinct : (busy.map (·.1)).Nodup) {depth : Nat}
    (listed : (thread, depth) ∈ busy) : busy.lookup thread = some depth := by
  induction busy with
  | nil => cases listed
  | cons first rest inductionHypothesis =>
    obtain ⟨fresh, distinct⟩ := List.nodup_cons.mp distinct
    rcases List.mem_cons.mp listed with rfl | later
    · simp
    · have apart : (thread == first.1) = false := by
        refine beq_false_of_ne fun same => fresh ?_
        exact List.mem_map.mpr ⟨_, later, same⟩
      rw [List.lookup_cons, apart]
      exact inductionHypothesis distinct later

/-- The entries are those of threads with live markers, and tell how many these are. -/
theorem Counts.mem_iff (counts : Counts busy live) (thread : Thread) (depth : Nat) :
    (thread, depth) ∈ busy ↔ thread ∈ live ∧ depth = live.count thread := by
  constructor
  · intro listed
    have known := counts.lookup thread
    rw [lookup_of_mem counts.distinct listed] at known
    by_cases alive : thread ∈ live
    · exact ⟨alive, by simpa [alive] using known⟩
    · simp [alive] at known
  · rintro ⟨alive, rfl⟩
    have known := counts.lookup thread
    rw [if_pos alive] at known
    obtain ⟨before, after, rfl, -⟩ := List.lookup_eq_some_iff.mp known
    simp

/-- There is one entry for each thread. -/
theorem Counts.count_eq (counts : Counts busy live) : busy.count = live.dedup.length := by
  have same : (busy.map (·.1)).Perm live.dedup := by
    refine (List.perm_ext_iff_of_nodup counts.distinct live.nodup_dedup).mpr fun thread => ?_
    rw [List.mem_dedup]
    constructor
    · rintro listed
      obtain ⟨⟨_, depth⟩, entry, rfl⟩ := List.mem_map.mp listed
      exact ((counts.mem_iff _ depth).mp entry).1
    · intro alive
      exact List.mem_map.mpr ⟨_, (counts.mem_iff thread _).mpr ⟨alive, rfl⟩, rfl⟩
  have sized := same.length_eq
  rwa [List.length_map] at sized

end BusySet

end Hotload
