import Hotload.Proofs.DefinitionsApart

/-!
# What a reaper has to tell

A reaper keeps a list of files, and the files die without its being told: somewhere the last reference
to one is dropped. It notices when it next tracks a file or sweeps, and what a sweep tells is how many
it found dead. A history says what happened to a reaper since it was made: which files it tracked, to
which files the last reference was dropped, and when it swept. The law of a history goes through it
one happening at a time. What it comes to is that the list holds the tracked files but for those that
were dropped before the reaper last looked.
-/

namespace Hotload

/-- What may happen to a reaper and to the files that it tracks. -/
inductive Happening where
  | tracked (name : String) (id : Nat)
  /-- The last reference to a file was dropped. -/
  | dropped (id : Nat)
  | swept (count : Nat)
  deriving DecidableEq, Repr

namespace Happening

/-- Whether a reference was dropped, which the reaper is not told. -/
def isDrop : Happening → Bool
  | .dropped _ => true
  | _ => false

/-- The file that was tracked, if one was. -/
def tracked? : Happening → Option (String × Nat)
  | .tracked name id => some (name, id)
  | _ => none

end Happening

/-- What happened to a reaper, in order. -/
abbrev History := List Happening

namespace History

/-- The files that were tracked, with their numbers. -/
def tracked (history : History) : List (String × Nat) :=
  history.filterMap Happening.tracked?

/-- The drops since the reaper last tracked a file or swept. -/
def recent (history : History) : List Happening :=
  history.reverse.takeWhile Happening.isDrop

/-- What happened until then. -/
def earlier (history : History) : List Happening :=
  history.reverse.dropWhile Happening.isDrop

/-- The tracked files but for those to which the last reference was dropped. -/
def live (history : History) : List (String × Nat) :=
  history.tracked.filter fun entry => .dropped entry.2 ∉ history

/-- How many tracked files lost their last reference since the reaper last tracked a file or swept. -/
def lost (history : History) : Nat :=
  history.tracked.countP fun entry => .dropped entry.2 ∈ history.recent

/-- One more happening tracks one more file, if any. -/
theorem tracked_concat (history : History) (happening : Happening) :
    tracked (history ++ [happening]) = history.tracked ++ happening.tracked?.toList := by
  cases happening <;> simp [tracked, Happening.tracked?]

/-- What happened is recent, or it happened before. -/
theorem mem_iff (history : History) (happening : Happening) :
    happening ∈ history ↔ happening ∈ history.recent ∨ happening ∈ history.earlier := by
  rw [recent, earlier, ← List.mem_append, List.takeWhile_append_dropWhile, List.mem_reverse]

/-- A drop is recent once it happened, and nothing else changes. -/
theorem drop_concat (history : History) (id : Nat) :
    tracked (history ++ [.dropped id]) = history.tracked ∧
      recent (history ++ [.dropped id]) = .dropped id :: history.recent ∧
      earlier (history ++ [.dropped id]) = history.earlier := by
  have isDrop : (Happening.dropped id).isDrop = true := rfl
  refine ⟨(tracked_concat history _).trans (List.append_nil _), ?_⟩
  simp [recent, earlier, isDrop]

/-- After anything else, no drop is recent. -/
theorem look_concat (history : History) {happening : Happening} (look : happening.isDrop = false) :
    recent (history ++ [happening]) = [] ∧
      earlier (history ++ [happening]) = happening :: history.reverse := by
  simp [recent, earlier, look]

/-- A drop is no other happening. -/
theorem dropped_mem_concat {history : History} {happening : Happening}
    (look : happening.isDrop = false) {id : Nat} :
    .dropped id ∈ history ++ [happening] ↔ .dropped id ∈ history := by
  rw [List.mem_append, List.mem_singleton]
  refine ⟨fun member => member.resolve_right ?_, .inl⟩
  rintro rfl
  cases look

/-- A sweep drops no file. -/
theorem live_swept (history : History) (count : Nat) :
    live (history ++ [.swept count]) = history.live := by
  have look : (Happening.swept count).isDrop = false := rfl
  rw [live, live, (tracked_concat history _).trans (List.append_nil _)]
  simp only [dropped_mem_concat look]

end History

namespace Session

variable {session before after : Session} {reaper : Nat} {history : History}

/-! ## Steps -/

/-- A step that a reaper has no part in: it leaves the reaper's list, and of the files that have been
given a number it neither makes nor drops any. -/
structure Bystands (reaper : Nat) (before after : Session) : Prop where
  fresh : before.fresh ≤ after.fresh
  entries : after.reapers.get? reaper = before.reapers.get? reaper
  live : ∀ id < before.fresh, after.isLive id = before.isLive id
  given : TracksGiven before after

/-- The session is one to which the history of a reaper leads. The history begins when the reaper is
made. A file is dropped when nothing refers to it any more. -/
inductive Recorded (reaper : Nat) : History → Session → Prop where
  | made {before : Session} (isMade : reaper = before.fresh)
      (isNew : before.reapers.get? reaper = none)
      (given : ∀ id, before.isLive id = true → id < before.fresh) :
      Recorded reaper [] before.addReaper.1
  | bystands {history : History} {before after : Session} (recorded : Recorded reaper history before)
      (bystands : Bystands reaper before after) : Recorded reaper history after
  | tracked {history : History} {before : Session} (recorded : Recorded reaper history before)
      (path : String) :
      Recorded reaper (history ++ [.tracked (trackedName path) before.fresh])
        (before.track reaper path).1
  | dropped {history : History} {before : Session} (recorded : Recorded reaper history before)
      {id : Nat} (isLive : before.isLive id = true) (unreferred : .temporary id ∉ before.targets) :
      Recorded reaper (history ++ [.dropped id]) (before.dropTemporary id)
  | swept {history : History} {before : Session} (recorded : Recorded reaper history before) :
      Recorded reaper (history ++ [.swept (before.sweep reaper).2]) (before.sweep reaper).1

/-! ## The law of a history -/

/-- What a reaper's list and the files have to do with its history. -/
structure Tallied (reaper : Nat) (history : History) (session : Session) : Prop where
  given : ∀ id, session.isLive id = true → id < session.fresh
  tracked : ∀ entry ∈ history.tracked, entry.2 < session.fresh
  distinct : (history.tracked.map (·.2)).Nodup
  dropped : ∀ id, .dropped id ∈ history → id < session.fresh
  live : ∀ entry ∈ history.tracked,
    (session.isLive entry.2 = true ↔ .dropped entry.2 ∉ history)
  once : ∀ entry ∈ history.tracked,
    .dropped entry.2 ∈ history.recent → .dropped entry.2 ∉ history.earlier
  entries : session.reapers.get? reaper =
    some (history.tracked.filter fun entry => .dropped entry.2 ∉ history.earlier)

/-- A dropped file is there no more, and all others are. -/
theorem isLive_dropTemporary (session : Session) (id other : Nat) :
    (session.dropTemporary id).isLive other = true ↔ session.isLive other = true ∧ other ≠ id := by
  have kept := Table.get?_filter session.temporaries (fun number => decide (number ≠ id)) other
  rw [isLive, isLive, Table.has, Table.has, dropTemporary_temporaries, kept]
  by_cases same : other = id <;> simp [same]

/-- A sweep drops no file. -/
theorem isLive_sweep (session : Session) (reaper : Nat) :
    (session.sweep reaper).1.isLive = session.isLive := by
  have temporaries : (session.sweep reaper).1.temporaries = session.temporaries := by
    unfold sweep
    split <;> rfl
  funext id
  rw [isLive, isLive, temporaries]

/-- The list of a reaper after it looked: it holds live files only. -/
theorem sweep_entries (session : Session) {entries : Reaper}
    (present : session.reapers.get? reaper = some entries) :
    (session.sweep reaper).1.reapers.get? reaper = some (entries.live session.isLive) := by
  have updated := Table.get?_update session.reapers reaper reaper
    fun _ => entries.live session.isLive
  rw [if_pos rfl, present] at updated
  unfold sweep
  rw [present]
  exact updated

namespace Tallied

/-- The live files of the list are the tracked ones that were not dropped. -/
theorem live_entries (tallied : Tallied reaper history session) :
    Reaper.live session.isLive
      (history.tracked.filter fun entry => .dropped entry.2 ∉ history.earlier) = history.live := by
  rw [Reaper.live, History.live, List.filter_filter]
  refine List.filter_congr fun entry member => ?_
  rw [Bool.eq_iff_iff, Bool.and_eq_true, tallied.live entry member, decide_eq_true_eq,
    decide_eq_true_eq, History.mem_iff]
  tauto

theorem bystands (tallied : Tallied reaper history before) (bystands : Bystands reaper before after) :
    Tallied reaper history after where
  given id isLive :=
    (bystands.given id isLive).elim
      (fun early => Nat.lt_of_lt_of_le (tallied.given id early) bystands.fresh) fun given => given
  tracked entry member := Nat.lt_of_lt_of_le (tallied.tracked entry member) bystands.fresh
  distinct := tallied.distinct
  dropped id member := Nat.lt_of_lt_of_le (tallied.dropped id member) bystands.fresh
  live entry member := by
    rw [bystands.live entry.2 (tallied.tracked entry member)]
    exact tallied.live entry member
  once := tallied.once
  entries := bystands.entries.trans tallied.entries

/-- A new reaper tracks nothing. -/
theorem made (isMade : reaper = before.fresh) (isNew : before.reapers.get? reaper = none)
    (given : ∀ id, before.isLive id = true → id < before.fresh) :
    Tallied reaper [] before.addReaper.1 where
  given id isLive := Nat.lt_succ_of_lt (given id isLive)
  tracked := by simp [History.tracked]
  distinct := List.nodup_nil
  dropped := by simp
  live := by simp [History.tracked]
  once := by simp [History.tracked]
  entries := by
    have added := Table.get?_add before.reapers before.fresh reaper []
    rw [isNew, if_pos isMade] at added
    exact added

/-- A tracked file comes last, and the list holds no dropped one. -/
theorem track (tallied : Tallied reaper history before) (path : String) :
    Tallied reaper (history ++ [.tracked (trackedName path) before.fresh])
      (before.track reaper path).1 := by
  have tracked : History.tracked (history ++ [.tracked (trackedName path) before.fresh]) =
      history.tracked ++ [(trackedName path, before.fresh)] :=
    History.tracked_concat history _
  have look : (Happening.tracked (trackedName path) before.fresh).isDrop = false := rfl
  -- The number is a new one, and only files with a number were dropped.
  have undropped : .dropped before.fresh ∉ history := fun member =>
    Nat.lt_irrefl _ (tallied.dropped _ member)
  constructor
  · intro id isLive
    rcases track_has.mp isLive with early | rfl
    · exact Nat.lt_succ_of_lt (tallied.given id early)
    · exact Nat.lt_succ_self _
  · intro entry member
    rw [tracked] at member
    rcases List.mem_append.mp member with early | new
    · exact Nat.lt_succ_of_lt (tallied.tracked entry early)
    · rw [List.mem_singleton.mp new]
      exact Nat.lt_succ_self _
  · rw [tracked, List.map_append, List.map_singleton, List.nodup_append_comm, List.singleton_append,
      List.nodup_cons]
    refine ⟨fun again => ?_, tallied.distinct⟩
    obtain ⟨entry, member, same⟩ := List.mem_map.mp again
    exact Nat.lt_irrefl _ (same ▸ tallied.tracked entry member)
  · intro id member
    exact Nat.lt_succ_of_lt (tallied.dropped id ((History.dropped_mem_concat look).mp member))
  · intro entry member
    rw [tracked] at member
    rw [History.dropped_mem_concat look, isLive, track_has]
    rcases List.mem_append.mp member with early | new
    · have given := tallied.tracked entry early
      rw [or_iff_left (by omega)]
      exact tallied.live entry early
    · rw [List.mem_singleton.mp new]
      simp [undropped]
  · simp [(History.look_concat history look).1]
  · rw [track_entries tallied.entries path, tallied.live_entries, tracked,
      (History.look_concat history look).2, List.filter_append, History.live]
    simp [undropped]

/-- A dropped file was live, so it was not dropped before. -/
theorem drop (tallied : Tallied reaper history before) {id : Nat} (isLive : before.isLive id = true) :
    Tallied reaper (history ++ [.dropped id]) (before.dropTemporary id) := by
  obtain ⟨tracked, recent, earlier⟩ := History.drop_concat history id
  have rest := dropTemporary_rest before id
  have fresh : (before.dropTemporary id).fresh = before.fresh := by rw [rest]
  have reapers : (before.dropTemporary id).reapers = before.reapers := by rw [rest]
  constructor
  · intro other there
    rw [fresh]
    exact tallied.given other ((isLive_dropTemporary before id other).mp there).1
  · rw [tracked, fresh]
    exact tallied.tracked
  · rw [tracked]
    exact tallied.distinct
  · intro other member
    rw [fresh]
    rcases List.mem_append.mp member with early | new
    · exact tallied.dropped other early
    · obtain rfl := Happening.dropped.inj (List.mem_singleton.mp new)
      exact tallied.given other isLive
  · intro entry member
    rw [tracked] at member
    rw [isLive_dropTemporary, tallied.live entry member, List.mem_append, List.mem_singleton,
      Happening.dropped.injEq, not_or]
  · intro entry member dropped
    rw [tracked] at member
    rw [recent, List.mem_cons, Happening.dropped.injEq] at dropped
    rw [earlier]
    rcases dropped with rfl | before
    · exact fun early =>
        (tallied.live entry member).mp isLive ((History.mem_iff _ _).mpr (.inr early))
    · exact tallied.once entry member before
  · rw [reapers, tracked, earlier]
    exact tallied.entries

/-- A sweep leaves no dropped file in the list. -/
theorem sweep (tallied : Tallied reaper history before) :
    Tallied reaper (history ++ [.swept (before.sweep reaper).2]) (before.sweep reaper).1 := by
  have tracked : History.tracked (history ++ [.swept (before.sweep reaper).2]) =
      history.tracked :=
    (History.tracked_concat history _).trans (List.append_nil _)
  have look : (Happening.swept (before.sweep reaper).2).isDrop = false := rfl
  have fresh : (before.sweep reaper).1.fresh = before.fresh := by
    unfold Session.sweep
    split <;> rfl
  have isLive := isLive_sweep before reaper
  constructor
  · rw [isLive, fresh]
    exact tallied.given
  · rw [tracked, fresh]
    exact tallied.tracked
  · rw [tracked]
    exact tallied.distinct
  · intro id member
    rw [fresh]
    exact tallied.dropped id ((History.dropped_mem_concat look).mp member)
  · intro entry member
    rw [tracked] at member
    rw [History.dropped_mem_concat look, isLive]
    exact tallied.live entry member
  · simp [(History.look_concat history look).1]
  · rw [sweep_entries before tallied.entries, tallied.live_entries, tracked,
      (History.look_concat history look).2, History.live]
    simp

/-- The names of the live files. -/
theorem names (tallied : Tallied reaper history session) :
    session.liveNames reaper = history.live.map (·.1) := by
  rw [liveNames, tallied.entries, Option.getD_some, Reaper.liveNames, tallied.live_entries]

/-- In the list are the live files and those that were dropped since the reaper last looked. -/
theorem size (tallied : Tallied reaper history session) :
    (history.tracked.filter fun entry => .dropped entry.2 ∉ history.earlier).length =
      history.live.length + history.lost := by
  have parts := List.countP_eq_countP_filter_add history.tracked
    (fun entry => decide (Happening.dropped entry.2 ∉ history.earlier))
    fun entry => decide (Happening.dropped entry.2 ∉ history)
  rw [List.countP_filter, List.countP_filter] at parts
  rw [← List.countP_eq_length_filter, parts, History.live, ← List.countP_eq_length_filter,
    History.lost]
  congr 1
  · refine List.countP_congr fun entry member => ?_
    have split := History.mem_iff history (.dropped entry.2)
    simp only [Bool.and_eq_true, decide_eq_true_eq]
    tauto
  · refine List.countP_congr fun entry member => ?_
    have split := History.mem_iff history (.dropped entry.2)
    have once := tallied.once entry member
    simp only [Bool.and_eq_true, Bool.not_eq_true', decide_eq_true_eq, decide_eq_false_iff_not,
      not_not]
    tauto

end Tallied

/-- A history is a tally of its reaper's list. -/
theorem Recorded.tallied (recorded : Recorded reaper history session) :
    Tallied reaper history session := by
  induction recorded with
  | made isMade isNew given => exact .made isMade isNew given
  | bystands _ bystands tallied => exact tallied.bystands bystands
  | tracked _ path tallied => exact tallied.track path
  | dropped _ isLive _ tallied => exact tallied.drop isLive
  | swept _ tallied => exact tallied.sweep

/-! ## What the reaper tells -/

/-- What a reaper tells in a session, and what it keeps, by its history. -/
structure Recounts (reaper : Nat) (history : History) (session : Session) : Prop where
  /-- Every call tracked a file of its own. -/
  distinct : (history.tracked.map (·.2)).Nodup
  /-- The names of the live files, in the order in which they were tracked. -/
  names : session.liveNames reaper = history.live.map (·.1)
  count : session.liveCount reaper = (session.liveNames reaper).length
  /-- A sweep tells how many files were dropped since the reaper last looked. -/
  told : (session.sweep reaper).2 = history.lost
  sweptNames : (session.sweep reaper).1.liveNames reaper = session.liveNames reaper
  sweptCount : (session.sweep reaper).1.liveCount reaper = session.liveCount reaper
  /-- After a sweep, and after one more file is tracked, only live files are left in the list. -/
  swept : ∀ entries, (session.sweep reaper).1.reapers.get? reaper = some entries →
    ∀ entry ∈ entries, (session.sweep reaper).1.isLive entry.2 = true
  tracked : ∀ path entries, (session.track reaper path).1.reapers.get? reaper = some entries →
    ∀ entry ∈ entries, (session.track reaper path).1.isLive entry.2 = true
  /-- Until then, those that were dropped since are there as well. -/
  size : ∃ entries, session.reapers.get? reaper = some entries ∧
    entries.length = session.liveCount reaper + history.lost

/-- A reaper counts as many live files as it names. -/
theorem liveCount_eq (session : Session) (reaper : Nat) :
    session.liveCount reaper = (session.liveNames reaper).length := by
  rw [liveCount, liveNames, Reaper.liveCount, Reaper.liveNames, Reaper.live, List.length_map,
    List.countP_eq_length_filter]

/-- A reaper tells what happened to it. -/
theorem Recorded.recounts (recorded : Recorded reaper history session) :
    Recounts reaper history session := by
  have tallied := recorded.tallied
  have sweptNames : (session.sweep reaper).1.liveNames reaper = session.liveNames reaper := by
    rw [tallied.sweep.names, tallied.names, History.live_swept]
  constructor
  · exact tallied.distinct
  · exact tallied.names
  · exact liveCount_eq session reaper
  · have size := tallied.size
    unfold Session.sweep
    rw [tallied.entries]
    simp only [Reaper.sweep, tallied.live_entries]
    omega
  · exact sweptNames
  · rw [liveCount_eq, liveCount_eq, sweptNames]
  · intro entries present entry member
    rw [sweep_entries session tallied.entries] at present
    obtain rfl := Option.some.inj present
    rw [isLive_sweep]
    exact (List.mem_filter.mp member).2
  · intro path entries present entry member
    rw [track_entries tallied.entries path] at present
    obtain rfl := Option.some.inj present
    refine track_has.mpr ((List.mem_append.mp member).imp ?_ ?_)
    · exact fun early => (List.mem_filter.mp early).2
    · exact fun new => congrArg Prod.snd (List.mem_singleton.mp new)
  · exact ⟨_, tallied.entries, by rw [tallied.size, liveCount_eq, tallied.names, List.length_map]⟩

end Session

end Hotload
