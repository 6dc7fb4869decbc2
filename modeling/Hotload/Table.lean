/-!
# Tables

Things that refer to each other are kept in tables under numbers, and a reference is a number. A
number is given once and never again.
-/

namespace Hotload

/-- Values under numbers. -/
abbrev Table (α : Type) := List (Nat × α)

namespace Table

variable {α : Type}

/-- The value under a number. -/
def get? (table : Table α) (id : Nat) : Option α :=
  table.lookup id

/-- Adds a value under a number that is new. -/
def add (table : Table α) (id : Nat) (value : α) : Table α :=
  table ++ [(id, value)]

/-- Changes the value under a number, if there is one. -/
def update (table : Table α) (id : Nat) (change : α → α) : Table α :=
  table.map fun entry => if entry.1 = id then (id, change entry.2) else entry

/-- What a function makes of the values. -/
def mapValues {β : Type} (table : Table α) (value : α → β) : Table β :=
  table.map fun entry => (entry.1, value entry.2)

/-- Whether there is a value under a number. -/
def has (table : Table α) (id : Nat) : Bool :=
  (table.get? id).isSome

@[simp] theorem get?_nil (id : Nat) : get? ([] : Table α) id = none :=
  rfl

theorem get?_cons (first : Nat × α) (rest : Table α) (id : Nat) :
    get? (first :: rest) id = if id = first.1 then some first.2 else get? rest id := by
  obtain ⟨key, value⟩ := first
  by_cases same : id = key
  · simp [get?, same]
  · simp [get?, List.lookup_cons, same, beq_eq_false_iff_ne.mpr same]

/-- A change shows under its number and nowhere else. -/
theorem get?_update (table : Table α) (id other : Nat) (change : α → α) :
    (table.update id change).get? other =
      if other = id then (table.get? other).map change else table.get? other := by
  induction table with
  | nil => simp [update]
  | cons first rest inductionHypothesis =>
    have step : update (first :: rest) id change =
        (if first.1 = id then (id, change first.2) else first) :: update rest id change := rfl
    rw [step, get?_cons, get?_cons, inductionHypothesis]
    by_cases here : first.1 = id <;> by_cases asked : other = id <;> by_cases found : other = first.1
      <;> simp_all

/-- An added value is found unless its number was given before. -/
theorem get?_add (table : Table α) (id other : Nat) (value : α) :
    (table.add id value).get? other =
      (table.get? other).or (if other = id then some value else none) := by
  induction table with
  | nil => simp [add, get?_cons]
  | cons first rest inductionHypothesis =>
    have step : add (first :: rest) id value = first :: add rest id value := rfl
    rw [step, get?_cons, get?_cons, inductionHypothesis]
    by_cases found : other = first.1 <;> simp [found]

/-- Keeping values by their numbers keeps what is found under the numbers kept. -/
theorem get?_filter (table : Table α) (keep : Nat → Bool) (id : Nat) :
    get? (table.filter fun entry => keep entry.1) id = if keep id then table.get? id else none := by
  induction table with
  | nil => simp
  | cons first rest inductionHypothesis =>
    by_cases kept : keep first.1 = true
    · simp only [List.filter_cons, kept, ↓reduceIte, get?_cons, inductionHypothesis]
      by_cases found : id = first.1 <;> simp [found, kept]
    · simp only [List.filter_cons, kept, Bool.false_eq_true, ↓reduceIte, get?_cons,
        inductionHypothesis]
      by_cases found : id = first.1 <;> simp [found, kept]

/-- What is found under a number stands in the table. -/
theorem mem_of_get? {table : Table α} {id : Nat} {value : α} (found : table.get? id = some value) :
    (id, value) ∈ table := by
  unfold get? at found
  obtain ⟨before, after, rfl, _⟩ := List.lookup_eq_some_iff.mp found
  simp

/-- A number that stands in the table is found. -/
theorem has_iff {table : Table α} {id : Nat} : table.has id = true ↔ id ∈ table.map (·.1) := by
  induction table with
  | nil => simp [has]
  | cons first rest inductionHypothesis =>
    unfold has at inductionHypothesis ⊢
    rw [get?_cons, List.map_cons, List.mem_cons, ← inductionHypothesis]
    by_cases here : id = first.1 <;> simp [here]

@[simp] theorem get?_mapValues {β : Type} (table : Table α) (value : α → β) (id : Nat) :
    get? (table.mapValues value) id = (table.get? id).map value := by
  induction table with
  | nil => rfl
  | cons first rest inductionHypothesis =>
    have step : mapValues (first :: rest) value =
        (first.1, value first.2) :: mapValues rest value := rfl
    rw [step, get?_cons, get?_cons, inductionHypothesis]
    by_cases here : id = first.1 <;> simp [here]

/-- A change that a function does not see does not show in what the function makes. -/
theorem mapValues_update {β : Type} (table : Table α) (value : α → β) (id : Nat)
    (change : α → α) (unseen : ∀ entry, value (change entry) = value entry) :
    mapValues (table.update id change) value = mapValues table value := by
  unfold mapValues update
  rw [List.map_map]
  apply List.map_congr_left
  intro entry _
  by_cases here : entry.1 = id <;> simp [here, unseen]

end Table

end Hotload
