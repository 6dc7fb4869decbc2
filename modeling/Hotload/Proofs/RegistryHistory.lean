import Hotload.Registry.Basic
import Mathlib.Data.List.Dedup
import Mathlib.Data.List.Induction

/-!
# Registries and their history

A registry is the outcome of the registrations made so far. Its names stand in the order of their
last registration, each once; a name leads to the unit registered last under it; and the units, most
recent first, are those of the names taken from the end. `ofHistory` is the registry that a history
of registrations leads to.
-/

namespace Hotload.Registry

variable {α : Type}

/-- The registry that registrations lead to, made in their order. -/
def ofHistory (history : List (String × α)) : Registry α :=
  history.foldl (fun registry entry => registry.register entry.1 entry.2) []

/-- One more registration. -/
theorem ofHistory_concat (history : List (String × α)) (name : String) (unit : α) :
    ofHistory (history ++ [(name, unit)]) = (ofHistory history).register name unit := by
  simp [ofHistory]

/-- A registration moves its name to the end. -/
theorem names_register (registry : Registry α) (name : String) (unit : α) :
    (registry.register name unit).names = registry.names.filter (· ≠ name) ++ [name] := by
  simp only [names, register, without, List.map_append, List.map_cons, List.map_nil,
    List.filter_map]
  rfl

/-- A registration is found under its name and leaves other names alone. -/
theorem find?_register (registry : Registry α) (name other : String) (unit : α) :
    (registry.register name unit).find? other =
      if other = name then some unit else registry.find? other := by
  unfold find? register without
  induction registry with
  | nil =>
    by_cases asked : other = name
    · simp [asked]
    · simp [List.lookup_cons, beq_eq_false_iff_ne.mpr asked, asked]
  | cons first rest inductionHypothesis =>
    obtain ⟨key, value⟩ := first
    by_cases gone : key = name
    · rw [List.filter_cons_of_neg (by simpa using gone), inductionHypothesis]
      by_cases asked : other = name
      · simp [asked]
      · have differs : (other == key) = false := by simpa [gone] using asked
        simp [asked, List.lookup_cons, differs]
    · rw [List.filter_cons_of_pos (by simpa using gone), List.cons_append]
      cases here : other == key with
      | true =>
        have same : other = key := by simpa using here
        simp [same, gone]
      | false => simpa [List.lookup_cons, here] using inductionHypothesis

/-- Taking a name to the end of a list without duplicates is one more step of removing earlier
duplicates. -/
theorem dedup_concat (names : List String) (name : String) :
    (names ++ [name]).dedup = names.dedup.filter (· ≠ name) ++ [name] := by
  induction names with
  | nil => simp
  | cons first rest inductionHypothesis =>
    rw [List.cons_append]
    by_cases again : first ∈ rest
    · rw [List.dedup_cons_of_mem (List.mem_append_left _ again), List.dedup_cons_of_mem again,
        inductionHypothesis]
    · rw [List.dedup_cons_of_notMem again]
      by_cases last : first = name
      · subst last
        rw [List.dedup_cons_of_mem (by simp), inductionHypothesis,
          List.filter_cons_of_neg (by simp)]
      · rw [List.dedup_cons_of_notMem (by simp [again, last]), inductionHypothesis,
          List.filter_cons_of_pos (by simpa using last), List.cons_append]

/-- The names are those of the history, each at the place of its last registration. -/
theorem names_ofHistory (history : List (String × α)) :
    (ofHistory history).names = (history.map (·.1)).dedup := by
  induction history using List.reverseRecOn with
  | nil => rfl
  | append_singleton history entry inductionHypothesis =>
    rw [ofHistory_concat, names_register, inductionHypothesis, List.map_append, List.map_cons,
      List.map_nil, dedup_concat]

/-- No name is listed twice. -/
theorem names_ofHistory_nodup (history : List (String × α)) : (ofHistory history).names.Nodup := by
  rw [names_ofHistory]
  exact List.nodup_dedup _

/-- A name leads to what was registered last under it. -/
theorem find?_ofHistory (history : List (String × α)) (name : String) :
    (ofHistory history).find? name = history.reverse.lookup name := by
  induction history using List.reverseRecOn with
  | nil => rfl
  | append_singleton history entry inductionHypothesis =>
    rw [ofHistory_concat, find?_register, inductionHypothesis, List.reverse_append,
      List.reverse_singleton, List.singleton_append]
    obtain ⟨key, value⟩ := entry
    by_cases here : name = key
    · simp [here]
    · have differs : (name == key) = false := by simpa using here
      simp [List.lookup_cons, here, differs]

/-- Where no name is listed twice, every entry is found under its name. -/
theorem find?_of_mem {registry : Registry α} (once : registry.names.Nodup) {entry : String × α}
    (listed : entry ∈ registry) : registry.find? entry.1 = some entry.2 := by
  unfold find?
  induction registry with
  | nil => cases listed
  | cons first rest inductionHypothesis =>
    obtain ⟨key, value⟩ := first
    obtain ⟨new, others⟩ := List.nodup_cons.mp once
    rcases List.mem_cons.mp listed with rfl | later
    · simp
    · have differs : (entry.1 == key) = false := by
        rw [beq_eq_false_iff_ne]
        intro same
        exact new (List.mem_map.mpr ⟨entry, later, same⟩)
      simp only [List.lookup_cons, differs]
      exact inductionHypothesis others later

/-- What is found under a name is listed with it. -/
theorem mem_of_find? {registry : Registry α} {name : String} {unit : α}
    (found : registry.find? name = some unit) : (name, unit) ∈ registry := by
  unfold find? at found
  obtain ⟨before, after, rfl, _⟩ := List.lookup_eq_some_iff.mp found
  simp

/-- The units, most recent first, are what the names lead to, taken from the end. -/
theorem recentFirst_eq {registry : Registry α} (once : registry.names.Nodup) :
    registry.recentFirst.map some = registry.names.reverse.map registry.find? := by
  have forward : (registry.map (·.2)).map some = registry.names.map registry.find? := by
    simp only [names, List.map_map]
    apply List.map_congr_left
    intro entry listed
    exact (find?_of_mem once listed).symm
  rw [recentFirst, List.map_reverse, List.map_reverse, forward]

end Hotload.Registry
