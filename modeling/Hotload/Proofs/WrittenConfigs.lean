import Hotload.Config.Document
import Hotload.Proofs.WrittenDocuments

/-!
# Configurations as they are written

A configuration is written with one line for each of its settings. A setting that is absent has no
line, and is absent again when the document is read, because absence is its default as well. The
settings that have another default always have a line, a list of arguments even if it is empty.
-/

namespace Hotload.Config

open Toml

/-- The line of a text. -/
def textLine (key text : String) : Line :=
  ⟨key, printText text, .text text⟩

/-- The line of a number. -/
def numberLine (key : String) (number : Nat) : Line :=
  ⟨key, toString number, .integer number⟩

/-- The line of a text that may be absent. -/
def optionalLines (key : String) : Option String → List Line
  | none => []
  | some text => [textLine key text]

/-- The lines before the first group. -/
def lines (config : Config) : List Line :=
  [textLine "cache_dir" config.cacheDirectory,
    textLine "staging_dir" config.stagingDirectory,
    textLine "libs_dir" config.librariesDirectory,
    textLine "archive_extension" config.archiveExtension] ++
  optionalLines "artifact_extension" config.artifactExtension ++
  [⟨"dump_failed_input", if config.dumpsFailedInput then "true" else "false",
    .boolean config.dumpsFailedInput⟩]

/-- The group of settings for waiting. -/
def patienceGroup (patience : Patience) : Group :=
  ⟨"quiescence", [numberLine "poll_interval_ms" patience.interval.toNat,
    numberLine "max_attempts" patience.attempts.toNat]⟩

/-- The group of settings for the compiler. -/
def compilerGroup (compiler : CompilerSettings) : Group :=
  ⟨"compiler", [textLine "program" compiler.program,
    ⟨"args", printTexts compiler.arguments, .array (compiler.arguments.map .text)⟩] ++
    optionalLines "packaged_flag" compiler.packagedFlag⟩

/-- The groups of settings. -/
def groups (config : Config) : List Group :=
  patienceGroup config.patience :: (config.compiler.map compilerGroup).toList

/-- A text that may be absent is written in its line. -/
theorem toList_optionalLine (key : String) (text : Option String) :
    (optionalLine key text).toList = (optionalLines key text).flatMap Line.chars := by
  cases text with
  | none => rfl
  | some text => simp [optionalLine, optionalLines, textLine, Line.chars]

/-- The settings of a compiler are written in their group. -/
theorem toList_compilerLines (compiler : Option CompilerSettings) :
    (compilerLines compiler).toList =
      (compiler.map compilerGroup).toList.flatMap Group.chars := by
  cases compiler with
  | none => rfl
  | some compiler =>
    simp [compilerLines, compilerGroup, Group.chars, Line.chars, textLine, toList_optionalLine]

/-- A configuration is written with its lines and groups. -/
theorem toDocument?_eq {config : Config} {document : String}
    (written : config.toDocument? = some document) :
    config.patience.interval.toNat < integerBound ∧
      document = String.ofList
        (config.lines.flatMap Line.chars ++ config.groups.flatMap Group.chars) := by
  unfold toDocument? at written
  split at written
  next small =>
    refine ⟨small, ?_⟩
    obtain rfl := Option.some.inj written
    apply String.toList_injective
    simp [lines, groups, patienceGroup, Group.chars, Line.chars, textLine, numberLine,
      toList_optionalLine, toList_compilerLines]
  next => cases written

/-- A line of a text is well-formed if its key is. -/
theorem textLine_proper {key : String} (bare : IsBare key) (text : String) :
    (textLine key text).Proper :=
  ⟨bare, spells_text text⟩

theorem optionalLines_proper {key : String} (bare : IsBare key) (text : Option String) :
    ∀ line ∈ optionalLines key text, line.Proper := by
  cases text with
  | none => simp [optionalLines]
  | some text => simpa [optionalLines] using textLine_proper bare text

/-- All lines of a configuration are well-formed. -/
theorem lines_proper (config : Config) : ∀ line ∈ config.lines, line.Proper := by
  have artifact := optionalLines_proper (show IsBare "artifact_extension" by decide)
    config.artifactExtension
  intro line member
  simp only [lines, List.cons_append, List.nil_append, List.mem_cons, List.mem_append,
    List.not_mem_nil, or_false] at member
  rcases member with rfl | rfl | rfl | rfl | optional | rfl
  · exact textLine_proper (by decide) _
  · exact textLine_proper (by decide) _
  · exact textLine_proper (by decide) _
  · exact textLine_proper (by decide) _
  · exact artifact line optional
  · exact ⟨show IsBare "dump_failed_input" by decide, spells_truth _⟩

theorem patienceGroup_proper {patience : Patience}
    (small : patience.interval.toNat < integerBound) : (patienceGroup patience).Proper where
  bare := show IsBare "quiescence" by decide
  distinct := by simp [patienceGroup, numberLine]
  lines := by
    intro line member
    simp only [patienceGroup, List.mem_cons, List.not_mem_nil, or_false] at member
    rcases member with rfl | rfl
    · exact ⟨show IsBare "poll_interval_ms" by decide, spells_natural small⟩
    · refine ⟨show IsBare "max_attempts" by decide, spells_natural ?_⟩
      have few := patience.attempts.toNat_lt
      unfold integerBound
      omega

theorem compilerGroup_proper (compiler : CompilerSettings) : (compilerGroup compiler).Proper where
  bare := show IsBare "compiler" by decide
  distinct := by
    unfold compilerGroup
    cases compiler.packagedFlag <;> simp [optionalLines, textLine]
  lines := by
    have flag := optionalLines_proper (show IsBare "packaged_flag" by decide)
      compiler.packagedFlag
    intro line member
    simp only [compilerGroup, List.cons_append, List.nil_append, List.mem_cons] at member
    rcases member with rfl | rfl | optional
    · exact textLine_proper (by decide) _
    · exact ⟨show IsBare "args" by decide, spells_texts _⟩
    · exact flag line optional

/-- No key is written twice. -/
theorem keys_distinct (config : Config) :
    (config.lines.map Line.key ++ config.groups.map Group.name).Nodup := by
  unfold lines groups
  cases config.artifactExtension <;> cases config.compiler <;>
    simp [optionalLines, textLine, patienceGroup, compilerGroup]

/-- A configuration that was written is read back, as far as the document goes. -/
theorem parse?_toDocument {config : Config} {document : String}
    (written : config.toDocument? = some document) :
    parse? document = some (config.lines.map Line.entry ++ config.groups.map Group.entry) := by
  obtain ⟨small, rfl⟩ := toDocument?_eq written
  refine parse?_written config.lines_proper ?_ config.keys_distinct
  intro group member
  rcases List.mem_cons.mp member with rfl | compiler
  · exact patienceGroup_proper small
  · obtain ⟨settings, -, rfl⟩ := Option.map_eq_some_iff.mp (Option.mem_toList.mp compiler)
    exact compilerGroup_proper settings

/-! ## Settings -/

/-- A setting that is there is read, whatever the default is. -/
theorem setting_some {α : Type} (read : Value → Option α) (default : α) (value : Value) :
    setting read default (some value) = read value :=
  rfl

/-- Texts in a list are read as they are. -/
theorem texts?_map (texts : List String) : texts? (.array (texts.map .text)) = some texts := by
  rw [texts?, List.mapM_map]
  induction texts with
  | nil => rfl
  | cons text others inductionHypothesis =>
    rw [List.mapM_cons, inductionHypothesis]
    rfl

/-- A number within a bound is read as it is. -/
theorem natural?_integer {number bound : Nat} (small : number < bound) :
    natural? bound (.integer number) = some number := by
  simp [natural?, small]

/-- The settings for waiting are read as they are. -/
theorem patience?_entry (patience : Patience) :
    patience? (patienceGroup patience).entry.2 = some patience := by
  have first : ∀ interval attempts : Value, List.lookup "poll_interval_ms"
      [("poll_interval_ms", interval), ("max_attempts", attempts)] = some interval := by
    simp
  have second : ∀ interval attempts : Value, List.lookup "max_attempts"
      [("poll_interval_ms", interval), ("max_attempts", attempts)] = some attempts := by
    simp [List.lookup_cons]
  simp only [patienceGroup, Group.entry, numberLine, Line.entry, List.map_cons, List.map_nil]
  unfold patience?
  rw [settings?, Option.bind_eq_bind, Option.bind_some]
  extract_lets usual
  clear_value usual
  rw [first, second, setting_some, setting_some, natural?_integer patience.interval.toNat_lt_size,
    natural?_integer patience.attempts.toNat_lt_size]
  simp only [Option.bind_eq_bind, Option.bind_some, UInt64.ofNat_toNat, UInt32.ofNat_toNat]

/-- The settings for a compiler are read as they are. -/
theorem compiler?_entry (compiler : CompilerSettings) :
    compiler? (compilerGroup compiler).entry.2 = some compiler := by
  obtain ⟨program, arguments, flag⟩ := compiler
  have arguments := texts?_map arguments
  cases flag with
  | none =>
    simp [compilerGroup, Group.entry, textLine, optionalLines, Line.entry, compiler?, settings?,
      List.lookup_cons, text?, setting, arguments]
  | some flag =>
    simp [compilerGroup, Group.entry, textLine, optionalLines, Line.entry, compiler?, settings?,
      List.lookup_cons, text?, setting, arguments, optionalText?]

/-- What a configuration has under each key. -/
theorem lookup_entries (config : Config) :
    let entries := config.lines.map Line.entry ++ config.groups.map Group.entry
    entries.lookup "cache_dir" = some (.text config.cacheDirectory) ∧
      entries.lookup "staging_dir" = some (.text config.stagingDirectory) ∧
      entries.lookup "libs_dir" = some (.text config.librariesDirectory) ∧
      entries.lookup "archive_extension" = some (.text config.archiveExtension) ∧
      entries.lookup "artifact_extension" = config.artifactExtension.map .text ∧
      entries.lookup "dump_failed_input" = some (.boolean config.dumpsFailedInput) ∧
      entries.lookup "quiescence" = some (patienceGroup config.patience).entry.2 ∧
      entries.lookup "compiler" = config.compiler.map fun compiler =>
        (compilerGroup compiler).entry.2 := by
  obtain ⟨cache, staging, libraries, archive, artifact, dumps, patience, compiler⟩ := config
  cases artifact <;> cases compiler <;>
    simp [lines, groups, optionalLines, textLine, patienceGroup, compilerGroup, Line.entry,
      Group.entry, List.lookup_cons]

/-- A configuration is read from its entries. -/
theorem ofEntries?_entries (config : Config) :
    ofEntries? (config.lines.map Line.entry ++ config.groups.map Group.entry) = some config := by
  obtain ⟨cache, staging, libs, archive, artifact, dumps, patience, compiler⟩ :=
    lookup_entries config
  have artifactRead : setting optionalText? none (config.artifactExtension.map .text) =
      some config.artifactExtension := by
    cases config.artifactExtension <;> rfl
  have compilerRead : setting (fun value => (compiler? value).map some) none
      (config.compiler.map fun compiler => (compilerGroup compiler).entry.2) =
        some config.compiler := by
    cases config.compiler with
    | none => rfl
    | some compiler => rw [Option.map_some, setting_some, compiler?_entry, Option.map_some]
  have textRead : ∀ default text, setting text? default (some (.text text)) = some text :=
    fun _ _ => rfl
  have truthRead : ∀ default truth, setting truth? default (some (.boolean truth)) = some truth :=
    fun _ _ => rfl
  have patienceRead : ∀ default patience,
      setting patience? default (some (patienceGroup patience).entry.2) = some patience :=
    fun _ patience => by rw [setting_some, patience?_entry]
  unfold ofEntries?
  extract_lets usual
  clear_value usual
  rw [cache, staging, libs, archive, artifact, dumps, patience, compiler, textRead, textRead,
    textRead, textRead, artifactRead, truthRead, patienceRead, compilerRead]
  simp only [Option.bind_eq_bind, Option.bind_some]

/-- A configuration that is accepted, and that can be written, is read back as it was, every setting
of it: the settings that are absent are absent again, and an empty list is empty again. The document
is read line by line, each of which is proper, and each setting is then looked up by its key among
the lines. -/
theorem ofDocument_toDocument {config : Config} {document : String} (valid : config.flaw? = none)
    (written : config.toDocument? = some document) : ofDocument document = .ok config := by
  rw [ofDocument, parse?_toDocument written, Option.bind_some, ofEntries?_entries]
  simp only [validate, valid]

/-- Settings with quotes of both kinds, a backslash, several lines and a control character in them. -/
def quotingConfig : Config where
  cacheDirectory := "\"\"\"C:\\cache'''\n\x07"
  stagingDirectory := "it's \"staging\""
  librariesDirectory := "libs\n"
  archiveExtension := ""
  compiler := some { program := "c\\c", arguments := [] }

/-- A configuration with quotes of both kinds, a backslash, several lines and a control character in
its settings can be written and is read back as it was, with no arguments for the compiler and
without the settings that are absent. -/
theorem ofDocument_quotingConfig : quotingConfig.flaw? = none ∧
    ∃ document, quotingConfig.toDocument? = some document ∧
      ofDocument document = .ok quotingConfig := by
  have valid : quotingConfig.flaw? = none := by decide
  have written : quotingConfig.toDocument? = some _ := if_pos (by decide)
  exact ⟨valid, _, written, ofDocument_toDocument valid written⟩

end Hotload.Config
