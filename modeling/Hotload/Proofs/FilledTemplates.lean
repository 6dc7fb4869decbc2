import Hotload.Compiler.External
import Mathlib.Data.List.Infix

/-!
# Templates that are filled in

An argument of a compiler is made from its template by replacing first the placeholder of the input
and then that of the output. `substitute` replaces both in one scan, so that nothing that is filled in
is looked at again. The two come to the same for every template exactly if the path of the input is
inert: wherever it is put, no placeholder of the output comes to touch it. A path that holds the
placeholder is not inert, and neither is one that completes it with what stands beside it.
-/

namespace Hotload.Compiler

/-- The placeholder of the input. -/
def inputMark : List Char :=
  "\x7binput\x7d".toList

/-- The placeholder of the output. -/
def outputMark : List Char :=
  "\x7boutput\x7d".toList

/-- Replaces every occurrence of several patterns in one scan from left to right. What is put in is
not scanned. -/
def replaceEach (rules : List (List Char × List Char)) : Nat → List Char → List Char
  | _, [] => []
  | skipped + 1, _ :: rest => replaceEach rules skipped rest
  | 0, char :: rest =>
    match rules.find? fun rule => rule.1.isPrefixOf (char :: rest) with
    | some (pattern, replacement) => replacement ++ replaceEach rules (pattern.length - 1) rest
    | none => char :: replaceEach rules 0 rest

/-- The rules for both placeholders. -/
def rulesFor (input output : List Char) : List (List Char × List Char) :=
  [(inputMark, input), (outputMark, output)]

/-- The template with both placeholders replaced at once. -/
def substitute (request : CompileRequest) (template : String) : String :=
  String.ofList
    (replaceEach (rulesFor request.input.toList request.output.toList) 0 template.toList)

/-! ## One scan -/

section

variable {rules : List (List Char × List Char)} {pattern replacement text rest : List Char}

/-- A single replacement is a scan with one rule. -/
theorem replaceFrom_eq_each (pattern replacement : List Char) (skipped : Nat) (text : List Char) :
    replaceFrom pattern replacement skipped text =
      replaceEach [(pattern, replacement)] skipped text := by
  induction text generalizing skipped with
  | nil => cases skipped <;> rfl
  | cons char rest inductionHypothesis =>
    cases skipped with
    | succ skipped => exact inductionHypothesis skipped
    | zero =>
      rw [replaceFrom, replaceEach, List.find?_singleton]
      split <;> simp only [inductionHypothesis]

/-- The characters of an occurrence are passed over. -/
theorem replaceEach_skip (skipped : Nat) (text : List Char) :
    replaceEach rules skipped text = replaceEach rules 0 (text.drop skipped) := by
  induction text generalizing skipped with
  | nil => cases skipped <;> rfl
  | cons char rest inductionHypothesis =>
    cases skipped with
    | zero => rfl
    | succ skipped => exact inductionHypothesis skipped

/-- Where a pattern begins, its replacement is put, and the scan goes on behind it. -/
theorem replaceEach_found (present : pattern ≠ [])
    (found : rules.find? (fun rule => rule.1.isPrefixOf (pattern ++ rest)) =
      some (pattern, replacement)) :
    replaceEach rules 0 (pattern ++ rest) = replacement ++ replaceEach rules 0 rest := by
  cases pattern with
  | nil => exact absurd rfl present
  | cons char others =>
    rw [List.cons_append, replaceEach]
    rw [List.cons_append] at found
    simp only [found]
    rw [replaceEach_skip]
    simp

/-- None of the patterns begins in the front part of a text. -/
def Clear (patterns : List (List Char)) (front back : List Char) : Prop :=
  ∀ pattern ∈ patterns, ∀ tail ∈ front.tails, tail ≠ [] → ¬ pattern <+: tail ++ back

instance (patterns : List (List Char)) (front back : List Char) :
    Decidable (Clear patterns front back) :=
  inferInstanceAs (Decidable (∀ pattern ∈ patterns, ∀ tail ∈ front.tails, tail ≠ [] →
    ¬ pattern <+: tail ++ back))

/-- A part in which no pattern begins is left as it is. -/
theorem replaceEach_clear {front back : List Char} (clear : Clear (rules.map (·.1)) front back) :
    replaceEach rules 0 (front ++ back) = front ++ replaceEach rules 0 back := by
  induction front with
  | nil => rfl
  | cons char rest inductionHypothesis =>
    have passed : rules.find? (fun rule => rule.1.isPrefixOf (char :: (rest ++ back))) = none := by
      rw [List.find?_eq_none]
      intro rule member begins
      exact clear rule.1 (List.mem_map_of_mem member) (char :: rest) (by simp) (by simp)
        (List.isPrefixOf_iff_prefix.mp begins)
    have later : Clear (rules.map (·.1)) rest back := by
      intro pattern member tail inside
      refine clear pattern member tail ?_
      rw [List.mem_tails] at inside ⊢
      exact inside.trans (List.suffix_cons char rest)
    rw [List.cons_append, replaceEach, passed, inductionHypothesis later]
    rfl

/-- Either the pattern does not occur and nothing is replaced, or the first occurrence is replaced
and the scan goes on behind it. -/
theorem replaceFrom_cases (present : pattern ≠ []) (replacement text : List Char) :
    (¬ pattern <:+: text ∧ replaceFrom pattern replacement 0 text = text) ∨
      ∃ before after, text = before ++ pattern ++ after ∧
        replaceFrom pattern replacement 0 text =
          before ++ replacement ++ replaceFrom pattern replacement 0 after := by
  induction text with
  | nil => exact .inl ⟨by simpa using present, rfl⟩
  | cons char rest inductionHypothesis =>
    by_cases begins : pattern <+: char :: rest
    · obtain ⟨after, split⟩ := begins
      refine .inr ⟨[], after, by rw [← split]; rfl, ?_⟩
      have found : [(pattern, replacement)].find?
          (fun rule => rule.1.isPrefixOf (pattern ++ after)) = some (pattern, replacement) := by
        simp
      rw [← split, replaceFrom_eq_each, replaceFrom_eq_each, replaceEach_found present found]
      rfl
    · have passed : replaceFrom pattern replacement 0 (char :: rest) =
          char :: replaceFrom pattern replacement 0 rest := by
        rw [replaceFrom, if_neg (by rwa [List.isPrefixOf_iff_prefix])]
      rcases inductionHypothesis with ⟨nowhere, same⟩ | ⟨before, after, rfl, replaced⟩
      · refine .inl ⟨?_, by rw [passed, same]⟩
        rw [List.infix_cons_iff]
        exact not_or.mpr ⟨begins, nowhere⟩
      · exact .inr ⟨char :: before, after, rfl, by rw [passed, replaced]; rfl⟩

/-- Taking out the occurrences of a pattern makes nothing longer. -/
theorem length_replaceFrom_nil (pattern : List Char) (skipped : Nat) (text : List Char) :
    (replaceFrom pattern [] skipped text).length ≤ text.length := by
  induction text generalizing skipped with
  | nil => cases skipped <;> exact Nat.le_refl 0
  | cons char rest inductionHypothesis =>
    cases skipped with
    | succ skipped => exact Nat.le_succ_of_le (inductionHypothesis skipped)
    | zero =>
      rw [replaceFrom]
      split
      · exact Nat.le_succ_of_le (inductionHypothesis _)
      · exact Nat.succ_le_succ (inductionHypothesis 0)

/-- A pattern that occurs cannot be taken out without a trace. -/
theorem replaceFrom_nil_ne (present : pattern ≠ []) (occurs : pattern <:+: text) :
    replaceFrom pattern [] 0 text ≠ text := by
  rcases replaceFrom_cases present [] text with
    ⟨nowhere, _⟩ | ⟨before, after, rfl, replaced⟩
  · exact absurd occurs nowhere
  · intro same
    rw [replaced] at same
    have lengths := congrArg List.length same
    have shorter := length_replaceFrom_nil pattern 0 after
    have long := List.length_pos_of_ne_nil present
    simp only [List.length_append, List.length_nil] at lengths
    omega

end

/-! ## Inert texts -/

/-- Wherever a text is inserted, no occurrence of the pattern comes to touch it. -/
def Inert (pattern inserted : List Char) : Prop :=
  ∀ before after front back, before ++ inserted ++ after = front ++ pattern ++ back →
    front.length + pattern.length ≤ before.length ∨
      before.length + inserted.length ≤ front.length

section

variable {pattern inserted : List Char}

/-- No occurrence begins in an inert text. -/
theorem Inert.clear (inert : Inert pattern inserted) (present : pattern ≠ []) (back : List Char) :
    Clear [pattern] inserted back := by
  intro other member tail inside nonempty ⟨behind, begins⟩
  obtain rfl := List.mem_singleton.mp member
  obtain ⟨front, rfl⟩ := (List.mem_tails tail inserted).mp inside
  have long := List.length_pos_of_ne_nil present
  have tailLong := List.length_pos_of_ne_nil nonempty
  have apart := inert [] back front behind (by simp [begins])
  simp only [List.length_nil, List.length_append] at apart
  omega

/-- The text after an insertion begins with the pattern only if it did before. -/
theorem Inert.begins (inert : Inert pattern inserted) {mark text : List Char} (present : mark ≠ [])
    (away : ¬ mark <+: text) (begins : pattern <+: replaceFrom mark inserted 0 text) :
    pattern <+: text := by
  rcases replaceFrom_cases present inserted text with
    ⟨_, same⟩ | ⟨before, after, rfl, replaced⟩
  · rwa [same] at begins
  · rw [replaced] at begins
    obtain ⟨back, split⟩ := begins
    rcases inert before _ [] back split.symm with within | behind
    · have first : pattern <+: before :=
        List.prefix_of_prefix_length_le ⟨back, split⟩
          (by rw [List.append_assoc]; exact List.prefix_append before _) (by simpa using within)
      rw [List.append_assoc]
      exact first.trans (List.prefix_append before _)
    · have nothing : before = [] := by
        simp only [List.length_nil, Nat.le_zero, Nat.add_eq_zero_iff] at behind
        exact List.length_eq_zero_iff.mp behind.1
      rw [nothing, List.nil_append] at away
      exact absurd (List.prefix_append mark after) away

/-- A part of the pattern on each side, which may be empty but is not the whole pattern, completes an
occurrence together with the text between them. -/
def Completes (pattern inserted : List Char) : Prop :=
  ∃ front back, front <+: pattern ∧ front.length < pattern.length ∧ back <:+ pattern ∧
    back.length < pattern.length ∧ pattern <:+: front ++ inserted ++ back

/-- Of what stands before, only what belongs to the occurrence is needed. -/
theorem exists_front {before rest first last : List Char}
    (split : before ++ rest = first ++ (pattern ++ last))
    (begins : before.length < first.length + pattern.length) (present : pattern ≠ []) :
    ∃ front lead, front <+: pattern ∧ front.length < pattern.length ∧
      front ++ rest = lead ++ (pattern ++ last) ∧
        lead.length + before.length = first.length + front.length := by
  rcases List.append_eq_append_iff.mp split with ⟨lead, rfl, behind⟩ | ⟨front, rfl, behind⟩
  · refine ⟨[], lead, List.nil_prefix, List.length_pos_of_ne_nil present, behind, ?_⟩
    rw [List.length_append, List.length_nil, Nat.add_comm]
    rfl
  · have short : front.length < pattern.length := by
      rw [List.length_append] at begins
      omega
    have isFront : front <+: pattern :=
      List.prefix_of_prefix_length_le ⟨rest, behind.symm⟩ (List.prefix_append pattern last)
        (Nat.le_of_lt short)
    refine ⟨front, [], isFront, short, behind.symm, ?_⟩
    rw [List.length_append, List.length_nil, Nat.zero_add]

/-- Of what stands behind, only what belongs to the occurrence is needed. -/
theorem exists_back {text after lead last : List Char}
    (split : text ++ after = lead ++ (pattern ++ last)) (ends : lead.length < text.length)
    (present : pattern ≠ []) :
    ∃ back, back <:+ pattern ∧ back.length < pattern.length ∧ pattern <:+: text ++ back := by
  rw [← List.append_assoc] at split
  rcases List.append_eq_append_iff.mp split with ⟨back, whole, _⟩ | ⟨more, rfl, _⟩
  · have lengths := congrArg List.length whole
    simp only [List.length_append] at lengths
    have isBack : back <:+ pattern :=
      List.suffix_of_suffix_length_le ⟨text, whole.symm⟩ ⟨lead, rfl⟩ (by omega)
    exact ⟨back, isBack, by omega, lead, [], by rw [List.append_nil, whole]⟩
  · exact ⟨[], List.nil_suffix, List.length_pos_of_ne_nil present, lead, more,
      by rw [List.append_nil]⟩

/-- A text that is not inert completes an occurrence. -/
theorem completes_of_touched (present : pattern ≠ []) (touched : ¬ Inert pattern inserted) :
    Completes pattern inserted := by
  simp only [Inert, not_forall, not_or, Nat.not_le] at touched
  obtain ⟨before, after, first, last, split, begins, ends⟩ := touched
  rw [List.append_assoc, List.append_assoc] at split
  obtain ⟨front, lead, isFront, frontShort, behind, lengths⟩ := exists_front split begins present
  rw [← List.append_assoc] at behind
  obtain ⟨back, isBack, backShort, occurs⟩ :=
    exists_back behind (by rw [List.length_append]; omega) present
  exact ⟨front, back, isFront, frontShort, isBack, backShort, occurs⟩

/-- What stands in the middle part of a text. -/
theorem getElem?_middle (before middle after : List Char) {index : Nat}
    (within : index < middle.length) :
    (before ++ middle ++ after)[before.length + index]? = middle[index]? := by
  rw [List.append_assoc, List.getElem?_append_right (Nat.le_add_right _ _), Nat.add_sub_cancel_left,
    List.getElem?_append_left within]

/-- A text is inert if it holds neither the first nor the last character of the pattern, and some
character that is not in the pattern at all. -/
theorem inert_of_foreign {opening closing foreign : Char} {between : List Char}
    (isPattern : pattern = opening :: (between ++ [closing])) (noOpening : opening ∉ inserted)
    (noClosing : closing ∉ inserted) (holds : foreign ∈ inserted) (isForeign : foreign ∉ pattern) :
    Inert pattern inserted := by
  intro before after front back split
  by_contra touched
  obtain ⟨begins, ends⟩ := not_or.mp touched
  have stands : ∀ index < inserted.length, ∀ place < pattern.length,
      before.length + index = front.length + place → inserted[index]? = pattern[place]? := by
    intro index within place inside same
    rw [← getElem?_middle before inserted after within, ← getElem?_middle front pattern back inside,
      split, same]
  have long : pattern.length = between.length + 2 := by simp [isPattern]
  by_cases startsIn : before.length ≤ front.length
  · have first := stands (front.length - before.length) (by omega) 0 (by omega) (by omega)
    rw [isPattern, List.getElem?_cons_zero] at first
    exact noOpening (List.mem_of_getElem? first)
  · by_cases endsIn : front.length + pattern.length ≤ before.length + inserted.length
    · have last := stands (front.length + pattern.length - 1 - before.length) (by omega)
        (pattern.length - 1) (by omega) (by omega)
      have closes : pattern[pattern.length - 1]? = some closing := by
        rw [← List.getLast?_eq_getElem?, isPattern, List.getLast?_cons, List.getLast?_concat]
        rfl
      rw [closes] at last
      exact noClosing (List.mem_of_getElem? last)
    · -- The whole text lies in the occurrence.
      obtain ⟨index, within, here⟩ := List.getElem_of_mem holds
      have inPattern := stands index within (before.length + index - front.length) (by omega)
        (by omega)
      rw [List.getElem?_eq_getElem within, here] at inPattern
      exact isForeign (List.mem_of_getElem? inPattern.symm)

end

/-! ## Both placeholders -/

/-- A pattern that differs from the front part itself does not begin in it, whatever follows. -/
theorem clear_of_differs {patterns : List (List Char)} {front : List Char}
    (differs : ∀ pattern ∈ patterns, ∀ tail ∈ front.tails, tail ≠ [] →
      ¬ pattern.take tail.length <+: tail) (back : List Char) : Clear patterns front back := by
  intro pattern member tail inside nonempty begins
  refine differs pattern member tail inside nonempty ?_
  have shortened := begins.take tail.length
  rwa [List.take_left] at shortened

/-- The placeholder of the input does not begin in that of the output. -/
theorem clear_outputMark (back : List Char) : Clear [inputMark] outputMark back :=
  clear_of_differs (by decide +kernel) back

/-- Beside a placeholder of the input, parts of one of the output are no placeholders. -/
theorem clear_beside : ∀ front < 8, ∀ back < 8,
    Clear [inputMark, outputMark] (outputMark.take front)
        (inputMark ++ outputMark.drop (8 - back)) ∧
      Clear [inputMark, outputMark] (outputMark.drop (8 - back)) [] := by
  decide +kernel

/-- The placeholder of the output is no beginning of that of the input. -/
theorem not_inputMark_of_outputMark {rest : List Char} : ¬ inputMark <+: outputMark ++ rest :=
  clear_outputMark rest inputMark (by simp) outputMark (by simp [List.mem_tails]) (by decide)

/-- One scan for both placeholders goes through the template like this. -/
theorem replaceEach_input (input output rest : List Char) :
    replaceEach (rulesFor input output) 0 (inputMark ++ rest) =
      input ++ replaceEach (rulesFor input output) 0 rest :=
  replaceEach_found (by decide) (by simp [rulesFor])

theorem replaceEach_output (input output rest : List Char) :
    replaceEach (rulesFor input output) 0 (outputMark ++ rest) =
      output ++ replaceEach (rulesFor input output) 0 rest := by
  refine replaceEach_found (by decide) ?_
  have away : inputMark.isPrefixOf (outputMark ++ rest) = false := by
    rw [← Bool.not_eq_true, List.isPrefixOf_iff_prefix]
    exact not_inputMark_of_outputMark
  simp [rulesFor, away]

/-- A single replacement puts in what it replaces with, and goes on behind the occurrence. -/
theorem replaceFrom_found {pattern replacement rest : List Char} (present : pattern ≠ []) :
    replaceFrom pattern replacement 0 (pattern ++ rest) =
      replacement ++ replaceFrom pattern replacement 0 rest := by
  rw [replaceFrom_eq_each, replaceFrom_eq_each]
  exact replaceEach_found present (by simp)

/-- A single replacement leaves a part alone in which the pattern does not begin. -/
theorem replaceFrom_clear {pattern replacement front back : List Char}
    (clear : Clear [pattern] front back) :
    replaceFrom pattern replacement 0 (front ++ back) =
      front ++ replaceFrom pattern replacement 0 back := by
  rw [replaceFrom_eq_each, replaceFrom_eq_each]
  exact replaceEach_clear clear

/-- An inert input and an output that are filled in one after the other are filled in as at once. The
induction is on the template; the one part that matters is where a character of it is kept, because
only an input that is not inert could make a placeholder begin there. -/
theorem fillEach_of_inert {input : List Char} (inert : Inert outputMark input)
    (output template : List Char) :
    replaceFrom outputMark output 0 (replaceFrom inputMark input 0 template) =
      replaceEach (rulesFor input output) 0 template := by
  induction length : template.length using Nat.strong_induction_on generalizing template with
  | _ length inductionHypothesis =>
    subst length
    have later : ∀ front rest, front ≠ [] → template = front ++ rest →
        replaceFrom outputMark output 0 (replaceFrom inputMark input 0 rest) =
          replaceEach (rulesFor input output) 0 rest := by
      intro front rest filled split
      refine inductionHypothesis rest.length ?_ rest rfl
      have long := List.length_pos_of_ne_nil filled
      rw [split, List.length_append]
      omega
    by_cases isInput : inputMark <+: template
    · obtain ⟨rest, rfl⟩ := isInput
      rw [replaceFrom_found (by decide), replaceFrom_clear (inert.clear (by decide) _),
        later inputMark rest (by decide) rfl, replaceEach_input]
    · by_cases isOutput : outputMark <+: template
      · obtain ⟨rest, rfl⟩ := isOutput
        rw [replaceFrom_clear (clear_outputMark rest), replaceFrom_found (by decide),
          later outputMark rest (by decide) rfl, replaceEach_output]
      · cases template with
        | nil => rfl
        | cons char rest =>
          have keptOnce : replaceFrom inputMark input 0 (char :: rest) =
              char :: replaceFrom inputMark input 0 rest := by
            rw [replaceFrom, if_neg (by rwa [List.isPrefixOf_iff_prefix])]
          have away : ¬ outputMark <+: char :: replaceFrom inputMark input 0 rest := by
            rw [← keptOnce]
            exact fun begins => isOutput (inert.begins (by decide) isInput begins)
          have keptTwice : replaceFrom outputMark output 0
              (char :: replaceFrom inputMark input 0 rest) =
                char :: replaceFrom outputMark output 0 (replaceFrom inputMark input 0 rest) := by
            rw [replaceFrom, if_neg (by rwa [List.isPrefixOf_iff_prefix])]
          have keptAtOnce : replaceEach (rulesFor input output) 0 (char :: rest) =
              char :: replaceEach (rulesFor input output) 0 rest := by
            have passed : (rulesFor input output).find?
                (fun rule => rule.1.isPrefixOf (char :: rest)) = none := by
              simp [rulesFor, List.isPrefixOf_iff_prefix, isInput, isOutput]
            rw [replaceEach, passed]
          rw [keptOnce, keptTwice, later [char] rest (by simp) rfl, keptAtOnce]

/-- Fewer patterns begin in fewer places. -/
theorem Clear.fewer {patterns others : List (List Char)} {front back : List Char}
    (clear : Clear patterns front back) (fewer : others ⊆ patterns) : Clear others front back :=
  fun pattern member => clear pattern (fewer member)

/-- Between parts that are no placeholders, a scan only fills in the input. -/
theorem replaceEach_beside {rules : List (List Char × List Char)} {input front back : List Char}
    (known : rules.map (·.1) ⊆ [inputMark, outputMark])
    (fills : ∀ rest, replaceEach rules 0 (inputMark ++ rest) = input ++ replaceEach rules 0 rest)
    (clearFront : Clear [inputMark, outputMark] front (inputMark ++ back))
    (clearBack : Clear [inputMark, outputMark] back []) :
    replaceEach rules 0 (front ++ (inputMark ++ back)) = front ++ input ++ back := by
  have ending := replaceEach_clear (clearBack.fewer known)
  rw [List.append_nil, replaceEach, List.append_nil] at ending
  rw [replaceEach_clear (clearFront.fewer known), fills, ending, List.append_assoc]

/-- An input that is not inert is changed by some template when an empty output is filled in after
it. -/
theorem exists_template_of_completes {input : List Char} (completes : Completes outputMark input) :
    ∃ template, replaceFrom outputMark [] 0 (replaceFrom inputMark input 0 template) ≠
      replaceEach (rulesFor input []) 0 template := by
  obtain ⟨front, back, isFront, frontShort, isBack, backShort, occurs⟩ := completes
  have isTake : front = outputMark.take front.length := List.prefix_iff_eq_take.mp isFront
  have isDrop : back = outputMark.drop (8 - back.length) := List.suffix_iff_eq_drop.mp isBack
  obtain ⟨clearFront, clearBack⟩ := clear_beside front.length frontShort back.length backShort
  rw [← isDrop] at clearFront clearBack
  rw [← isTake] at clearFront
  have once : replaceFrom inputMark input 0 (front ++ (inputMark ++ back)) =
      front ++ input ++ back := by
    rw [replaceFrom_eq_each]
    exact replaceEach_beside (by simp) (fun rest => replaceEach_found (by decide) (by simp))
      clearFront clearBack
  have atOnce : replaceEach (rulesFor input []) 0 (front ++ (inputMark ++ back)) =
      front ++ input ++ back :=
    replaceEach_beside (by simp [rulesFor]) (replaceEach_input input []) clearFront clearBack
  refine ⟨front ++ (inputMark ++ back), ?_⟩
  rw [once, atOnce]
  exact replaceFrom_nil_ne (by decide) occurs

/-- The argument made from each template is the template with both placeholders replaced at once,
for all settings and outputs, exactly if the path of the input is inert. For a path that is not, a
template is built in which the path completes the placeholder of the output; an inert path can be
put in place without a new occurrence, so that the two replacements one after the other are one. -/
theorem arguments_verbatim_iff (input : String) :
    (∀ (settings : CompilerSettings) (output : String) (isPackaged : Bool),
      arguments settings ⟨input, output, isPackaged⟩ =
        (if isPackaged then settings.packagedFlag.toList else []) ++
          settings.arguments.map (substitute ⟨input, output, isPackaged⟩)) ↔
      Inert outputMark input.toList := by
  constructor
  · intro verbatim
    by_contra touched
    obtain ⟨template, differs⟩ :=
      exists_template_of_completes (completes_of_touched (by decide) touched)
    have same := verbatim ⟨"", [String.ofList template], none⟩ "" false
    simp only [arguments, Bool.false_eq_true, ↓reduceIte, List.nil_append, List.map_cons,
      List.map_nil, List.cons.injEq, and_true, fill, replace, substitute, String.toList_ofList,
      String.ofList_inj] at same
    exact differs same
  · intro inert settings output isPackaged
    unfold arguments
    refine congrArg (HAppend.hAppend _) (List.map_congr_left fun template _ => ?_)
    have filled := fillEach_of_inert inert output.toList template.toList
    simp only [fill, replace, substitute, String.toList_ofList]
    exact congrArg String.ofList filled

/-- A path with a separator and without braces is inert. -/
theorem inert_of_braceless {input : String} (separated : '/' ∈ input.toList)
    (noOpening : '\x7b' ∉ input.toList) (noClosing : '\x7d' ∉ input.toList) :
    Inert outputMark input.toList := by
  have isPattern : outputMark = '\x7b' :: ("output".toList ++ ['\x7d']) := by decide
  exact inert_of_foreign isPattern noOpening noClosing separated (by decide)

/-- A path that holds the placeholder of the output is put into a template, and what comes of it is
filled in again as if it were part of the template. -/
theorem arguments_nested :
    arguments ⟨"dx", ["\x7binput\x7d"], none⟩ ⟨"a/\x7boutput\x7d/b", "c", true⟩ = ["a/c/b"] ∧
      [substitute ⟨"a/\x7boutput\x7d/b", "c", true⟩ "\x7binput\x7d"] = ["a/\x7boutput\x7d/b"] := by
  decide +kernel

end Hotload.Compiler
