import Hotload.Toml.Parser
import Hotload.Proofs.QuotedTexts
import Mathlib.Data.Nat.Digits.Defs

/-!
# Values as they are written

A text, a list of texts, a truth value and a number are read from the form that they are written in.
A text or a list ends where its last quote or bracket is, so what comes after it hardly matters. A
number ends where its line does: until then there are digits only, and so it is no date, no time and no
number of another base.
-/

namespace Hotload.Toml

/-! ## Texts and lists of them -/

/-- A text is written between quotes. -/
theorem quoteText_head (chars : List Char) :
    ∃ first more, quoteText chars = first :: more ∧ (first = '"' ∨ first = '\'') := by
  unfold quoteText inTripleQuotes
  simp only
  split_ifs <;> simp

/-- What is written starts with none of the characters that are skipped between lines. -/
def Begins (chars : List Char) : Prop :=
  ∃ first rest, chars = first :: rest ∧ first ∉ [' ', '\t', '#', '\n', '\r']

section

variable {chars : List Char} (begins : Begins chars)

include begins

theorem skipBlanks_begins : skipBlanks chars = chars := by
  obtain ⟨first, rest, rfl, proper⟩ := begins
  have noBlank : isBlank first = false := by
    simp_all [isBlank]
  simp [skipBlanks, noBlank]

theorem skipLines_begins (fuel : Nat) : skipLines fuel chars = chars := by
  cases fuel with
  | zero => rfl
  | succ fuel =>
    have noBlanks := skipBlanks_begins begins
    obtain ⟨first, rest, rfl, proper⟩ := begins
    have noComment : skipComment (first :: rest) = first :: rest := by
      unfold skipComment
      split <;> simp_all
    have noNewline : takeNewline? (first :: rest) = none := by
      unfold takeNewline?
      split <;> simp_all
    simp only [skipLines, noBlanks, noComment, noNewline]

theorem skipLines_blank (fuel : Nat) : skipLines (fuel + 1) (' ' :: chars) = chars := by
  have noLines := skipLines_begins begins (fuel + 1)
  have same : skipBlanks (' ' :: chars) = skipBlanks chars := by
    simp [skipBlanks, isBlank]
  rw [skipLines] at noLines ⊢
  rw [same]
  exact noLines

end

/-- A quoted text starts with none of the characters that are skipped between lines. -/
theorem quoteText_begins (chars rest : List Char) : Begins (quoteText chars ++ rest) := by
  obtain ⟨first, more, quoted, isQuote⟩ := quoteText_head chars
  refine ⟨first, more ++ rest, by rw [quoted]; rfl, ?_⟩
  rcases isQuote with rfl | rfl <;> decide

/-- A quoted text does not start with the bracket that closes a list. -/
theorem quoteText_ne_bracket (chars : List Char) {rest tail : List Char} :
    quoteText chars ++ rest ≠ ']' :: tail := by
  intro same
  obtain ⟨first, more, quoted, isQuote⟩ := quoteText_head chars
  rw [quoted] at same
  obtain rfl := (List.cons.inj same).1
  simp at isQuote

/-- A text is a value. -/
theorem takeValue?_text (chars rest : List Char) (apart : StartsApart '"' rest)
    (apartLiteral : StartsApart '\'' rest) (fuel depth : Nat) :
    takeValue? (fuel + 1) depth (quoteText chars ++ rest) =
      some (.text (String.ofList chars), rest) := by
  have read := takeText?_quoteText apart apartLiteral chars
  obtain ⟨first, more, quoted, isQuote⟩ := quoteText_head chars
  rw [quoted, List.cons_append] at read ⊢
  rcases isQuote with rfl | rfl
  · simp [takeValue?, read]
  · simp [takeValue?, read]

/-- The form of several texts, without the brackets. -/
def listed (texts : List String) : List Char :=
  [',', ' '].intercalate (texts.map fun text => quoteText text.toList)

theorem toList_printTexts (texts : List String) :
    (printTexts texts).toList = '[' :: (listed texts ++ [']']) := by
  simp [printTexts, listed, String.toList_append, String.toList_intercalate, Function.comp_def,
    printText]

theorem listed_begins (texts : List String) (rest : List Char) :
    Begins (listed texts ++ ']' :: rest) := by
  cases texts with
  | nil => exact ⟨']', rest, rfl, by decide⟩
  | cons text others =>
    cases others with
    | nil => simpa [listed] using quoteText_begins text.toList (']' :: rest)
    | cons other others =>
      simpa [listed] using quoteText_begins text.toList (',' :: ' ' :: _)

/-- A list as it is written has a character or more for each of its texts. -/
theorem length_le_length_listed (texts : List String) : texts.length ≤ (listed texts).length := by
  induction texts with
  | nil => exact Nat.le_refl 0
  | cons text others inductionHypothesis =>
    obtain ⟨first, more, quoted, -⟩ := quoteText_head text.toList
    cases others with
    | nil => simp [listed, quoted]
    | cons other others =>
      have spelled : listed (text :: other :: others) =
          quoteText text.toList ++ ',' :: ' ' :: listed (other :: others) := by
        simp [listed]
      rw [spelled, quoted]
      simp only [List.length_append, List.length_cons] at inductionHypothesis ⊢
      omega

/-- A blank before an element makes no difference. -/
theorem takeElements?_blank {chars : List Char} (begins : Begins chars) (fuel depth : Nat) :
    takeElements? fuel depth (' ' :: chars) = takeElements? fuel depth chars := by
  cases fuel with
  | zero => rw [takeElements?, takeElements?]
  | succ fuel =>
    rw [takeElements?, takeElements?, List.length_cons, skipLines_blank begins,
      skipLines_begins begins]

/-- The closing bracket after an element. -/
theorem takeElements?_last (text : String) (rest : List Char) (fuel depth : Nat) :
    takeElements? (fuel + 2) depth (quoteText text.toList ++ ']' :: rest) =
      some ([.text text], rest) := by
  have read := takeValue?_text text.toList (']' :: rest) (startsApart_cons (by decide) rest)
    (startsApart_cons (by decide) rest) fuel depth
  have closes : Begins (']' :: rest) := ⟨_, _, rfl, by decide⟩
  rw [takeElements?, skipLines_begins (quoteText_begins text.toList _)]
  split
  next same => exact absurd same (quoteText_ne_bracket text.toList)
  next =>
    simp only [read, Option.bind_eq_bind, Option.bind_some, skipLines_begins closes,
      String.ofList_toList]

/-- A comma after an element. -/
theorem takeElements?_more (text : String) {rest : List Char} (begins : Begins rest)
    {values : List Value} {after : List Char} {fuel depth : Nat}
    (read : takeElements? (fuel + 1) depth rest = some (values, after)) :
    takeElements? (fuel + 2) depth (quoteText text.toList ++ ',' :: ' ' :: rest) =
      some (.text text :: values, after) := by
  have first := takeValue?_text text.toList (',' :: ' ' :: rest)
    (startsApart_cons (by decide) (' ' :: rest)) (startsApart_cons (by decide) (' ' :: rest)) fuel
    depth
  have comma : Begins (',' :: ' ' :: rest) := ⟨_, _, rfl, by decide⟩
  rw [takeElements?, skipLines_begins (quoteText_begins text.toList _)]
  split
  next same => exact absurd same (quoteText_ne_bracket text.toList)
  next =>
    simp only [first, Option.bind_eq_bind, Option.bind_some, skipLines_begins comma,
      takeElements?_blank begins, read, String.ofList_toList]

/-- Several texts are read from the form that they are written in. -/
theorem takeElements?_listed (texts : List String) (rest : List Char) {fuel : Nat}
    (enough : texts.length + 1 < fuel) (depth : Nat) :
    takeElements? fuel depth (listed texts ++ ']' :: rest) = some (texts.map .text, rest) := by
  induction texts generalizing fuel with
  | nil =>
    obtain ⟨fuel, rfl⟩ : ∃ less, fuel = less + 1 := ⟨fuel - 1, by omega⟩
    rw [takeElements?, skipLines_begins (listed_begins [] rest)]
    rfl
  | cons text others inductionHypothesis =>
    rw [List.length_cons] at enough
    obtain ⟨fuel, rfl⟩ : ∃ less, fuel = less + 2 := ⟨fuel - 2, by omega⟩
    cases others with
    | nil => simpa [listed] using takeElements?_last text rest fuel depth
    | cons other others =>
      have read := takeElements?_more text (listed_begins (other :: others) rest)
        (inductionHypothesis (show _ < fuel + 1 by omega))
      simpa [listed] using read

/-- A list of texts is a value. -/
theorem takeValue?_texts (texts : List String) (rest : List Char) {fuel depth : Nat}
    (shallow : depth + 1 < depthLimit) (enough : texts.length + 1 < fuel) :
    takeValue? (fuel + 1) depth ((printTexts texts).toList ++ rest) =
      some (.array (texts.map .text), rest) := by
  have read := takeElements?_listed texts rest enough (depth + 1)
  simp [toList_printTexts, takeValue?, shallow, read]

/-! ## Numbers and truth values -/

/-- Digits up to the end of a line are read as they are. -/
theorem takeDigits?_line {digits : List Char} (notEmpty : digits ≠ [])
    (areDigits : ∀ digit ∈ digits, digit.isDigit = true) (rest : List Char) :
    takeDigits? Char.isDigit (digits ++ '\n' :: rest) = some (digits, '\n' :: rest) := by
  have noUnderscore : ∀ digit ∈ digits, digit ≠ '_' := by
    rintro digit member rfl
    exact absurd (areDigits _ member) (by decide)
  cases digits with
  | nil => exact absurd rfl notEmpty
  | cons first more =>
    have body : (more ++ '\n' :: rest).takeWhile (fun char => char.isDigit || char == '_') = more := by
      rw [List.takeWhile_append_of_pos]
      · simp
      · intro digit member
        simp [areDigits digit (.tail _ member)]
    have whole : (first :: more).filter (· != '_') = first :: more := by
      rw [List.filter_eq_self]
      intro digit member
      simpa using noUnderscore digit member
    have ended : (first :: more).getLast? ≠ some '_' := by
      intro same
      exact noUnderscore '_' (List.mem_of_getLast? same) rfl
    have single : ∀ pair ∈ (first :: more).zip more, pair.1 ≠ '_' := fun pair member =>
      noUnderscore pair.1 (List.of_mem_zip member).1
    simp only [List.cons_append, takeDigits?, areDigits first List.mem_cons_self, if_true, body,
      List.drop_left, whole, beq_eq_false_iff_ne.mpr ended]
    rw [List.any_eq_false.mpr fun pair member => by simp [single pair member]]
    simp only [Bool.or_self, if_false, Bool.false_eq_true]

/-- The first digit of a number is a zero only if the number is. -/
theorem eq_zero_of_toDigits {number : Nat} {more : List Char}
    (zero : Nat.toDigits 10 number = '0' :: more) : number = 0 := by
  induction number using Nat.strongRecOn generalizing more with
  | ind number inductionHypothesis =>
    by_cases small : number < 10
    · rw [Nat.toDigits_of_lt_base small] at zero
      exact Nat.digitChar_eq_zero.mp (List.cons.inj zero).1
    · rw [Nat.toDigits_of_base_le (by decide) (by omega)] at zero
      obtain ⟨first, others, spelled⟩ := List.exists_cons_of_ne_nil
        (Nat.toDigits_ne_nil (n := number / 10) (b := 10))
      rw [spelled, List.cons_append] at zero
      rw [(List.cons.inj zero).1] at spelled
      have none := inductionHypothesis (number / 10) (by omega) spelled
      omega

/-- A digit is read as its distance from zero. -/
theorem hexValue?_isDigit {digit : Char} (isDigit : digit.isDigit = true) :
    Bytes.hexValue? digit = some (digit.toNat - '0'.toNat) := by
  rw [Char.isDigit, Bool.and_eq_true, decide_eq_true_eq, decide_eq_true_eq] at isDigit
  exact if_pos isDigit

/-- The digits of a number have it as their value. -/
theorem digitsValue_toDigits (number : Nat) : digitsValue 10 (Nat.toDigits 10 number) = number := by
  have same : ∀ digits : List Char, (∀ digit ∈ digits, digit.isDigit = true) → ∀ value,
      digits.foldl (fun value digit => 10 * value + (Bytes.hexValue? digit).getD 0) value =
        Nat.ofDigitChars 10 digits value := by
    intro digits areDigits
    induction digits with
    | nil => exact fun _ => rfl
    | cons digit others inductionHypothesis =>
      intro value
      rw [List.foldl_cons, hexValue?_isDigit (areDigits digit List.mem_cons_self), Option.getD_some,
        inductionHypothesis (fun later member => areDigits later (.tail _ member)),
        Nat.ofDigitChars_cons]
  have isDigit : ∀ digit ∈ Nat.toDigits 10 number, digit.isDigit = true :=
    fun digit member => Nat.isDigit_of_mem_toDigits (by decide) (by decide) member
  rw [digitsValue, same _ isDigit, Nat.ofDigitChars_ten_toDigits]

/-- A number up to the end of a line has no leading zero and is read as it is. -/
theorem takeWhole?_toDigits (number : Nat) (rest : List Char) :
    takeWhole? (Nat.toDigits 10 number ++ '\n' :: rest) =
      some (Nat.toDigits 10 number, '\n' :: rest) := by
  unfold takeWhole?
  split
  next more same =>
    obtain ⟨first, others, spelled⟩ := List.exists_cons_of_ne_nil
      (Nat.toDigits_ne_nil (n := number) (b := 10))
    have zero : number = 0 := by
      rw [spelled, List.cons_append] at same
      rw [(List.cons.inj same).1] at spelled
      exact eq_zero_of_toDigits spelled
    subst zero
    obtain rfl := (List.cons.inj same).2
    rfl
  next =>
    exact takeDigits?_line Nat.toDigits_ne_nil
      (fun digit member => Nat.isDigit_of_mem_toDigits (by decide) (by decide) member) rest

section

variable (number : Nat) (rest : List Char)

/-- A number is spelled by digits. -/
theorem isDigit_toDigits : ∀ digit ∈ Nat.toDigits 10 number, digit.isDigit = true :=
  fun _ member => Nat.isDigit_of_mem_toDigits (by decide) (by decide) member

/-- No mark that is not a digit comes after digits in the line of a number. -/
theorem toDigits_ne_mark (before : List Char) (digits : ∀ digit ∈ before, digit.isDigit = true)
    {mark : Char} {after : List Char} (notDigit : mark.isDigit = false) (notNewline : mark ≠ '\n') :
    Nat.toDigits 10 number ++ '\n' :: rest ≠ before ++ mark :: after := by
  intro same
  have ends := congrArg (List.dropWhile Char.isDigit) same
  rw [List.dropWhile_append_of_pos (isDigit_toDigits number), List.dropWhile_append_of_pos digits,
    List.dropWhile_cons_of_neg (by decide), List.dropWhile_cons_of_neg (by simp [notDigit])] at ends
  exact notNewline (List.cons.inj ends).1.symm

/-- The line of a number starts with no mark that is not a digit. -/
theorem toDigits_ne_first {mark : Char} {after : List Char} (notDigit : mark.isDigit = false)
    (notNewline : mark ≠ '\n') : Nat.toDigits 10 number ++ '\n' :: rest ≠ mark :: after :=
  toDigits_ne_mark number rest [] (by simp) notDigit notNewline

/-- A number without a sign has none. -/
theorem takeSign_toDigits : takeSign (Nat.toDigits 10 number ++ '\n' :: rest) =
    (false, Nat.toDigits 10 number ++ '\n' :: rest) := by
  unfold takeSign
  split
  next same => exact absurd same (toDigits_ne_first number rest rfl (by decide))
  next same => exact absurd same (toDigits_ne_first number rest rfl (by decide))
  next => rfl

/-- A number of sixty-four bits is read as it is. -/
theorem takeDecimal?_toDigits (small : number < integerBound) :
    takeDecimal? (Nat.toDigits 10 number ++ '\n' :: rest) =
      some (.integer number, '\n' :: rest) := by
  have whole := takeWhole?_toDigits number rest
  have value := digitsValue_toDigits number
  unfold takeDecimal?
  rw [takeSign_toDigits]
  simp only
  split
  next same => exact absurd same (toDigits_ne_first number rest rfl (by decide))
  next same => exact absurd same (toDigits_ne_first number rest rfl (by decide))
  next => simp [whole, takeFraction?, takeExponent?, value, boundedInteger?, small]

/-- A number has no mark of another base. -/
theorem takeNumber?_toDigits (small : number < integerBound) :
    takeNumber? (Nat.toDigits 10 number ++ '\n' :: rest) =
      some (.integer number, '\n' :: rest) := by
  unfold takeNumber?
  split
  next same => exact absurd same (toDigits_ne_mark number rest ['0'] (by simp) rfl (by decide))
  next same => exact absurd same (toDigits_ne_mark number rest ['0'] (by simp) rfl (by decide))
  next same => exact absurd same (toDigits_ne_mark number rest ['0'] (by simp) rfl (by decide))
  next => exact takeDecimal?_toDigits number rest small

/-- A number is no date. -/
theorem startsDate_toDigits : startsDate (Nat.toDigits 10 number ++ '\n' :: rest) = false := by
  by_contra date
  simp only [startsDate, Bool.not_eq_false, Bool.and_eq_true, decide_eq_true_eq, List.all_eq_true,
    beq_iff_eq] at date
  obtain ⟨⟨-, areDigits⟩, hyphen⟩ := date
  obtain ⟨inside, isHyphen⟩ := List.getElem?_eq_some_iff.mp hyphen
  have parts := (List.take_append_drop 4 (Nat.toDigits 10 number ++ '\n' :: rest)).symm
  rw [List.drop_eq_getElem_cons inside, isHyphen] at parts
  exact toDigits_ne_mark number rest _ areDigits rfl (by decide) parts

/-- A number is no time. -/
theorem startsTime_toDigits : startsTime (Nat.toDigits 10 number ++ '\n' :: rest) = false := by
  unfold startsTime
  split
  next first second after same =>
    by_contra time
    rw [Bool.not_eq_false, Bool.and_eq_true] at time
    have areDigits : ∀ digit ∈ [first, second], digit.isDigit = true := by
      simp [time]
    exact toDigits_ne_mark number rest [first, second] areDigits rfl (by decide) same
  next => rfl

/-- A number is a value. -/
theorem takeValue?_toDigits (small : number < integerBound) (fuel depth : Nat) :
    takeValue? (fuel + 1) depth (Nat.toDigits 10 number ++ '\n' :: rest) =
      some (.integer number, '\n' :: rest) := by
  have read := takeNumber?_toDigits number rest small
  have noDate := startsDate_toDigits number rest
  have noTime := startsTime_toDigits number rest
  unfold takeValue?
  split
  next same => exact absurd same (toDigits_ne_first number rest rfl (by decide))
  next same => exact absurd same (toDigits_ne_first number rest rfl (by decide))
  next same => exact absurd same (toDigits_ne_first number rest rfl (by decide))
  next same => exact absurd same (toDigits_ne_first number rest rfl (by decide))
  next first more _ _ _ _ same =>
    have isDigit : first.isDigit = true := by
      obtain ⟨digit, others, spelled⟩ := List.exists_cons_of_ne_nil
        (Nat.toDigits_ne_nil (n := number) (b := 10))
      have areDigits := isDigit_toDigits number digit (by simp [spelled])
      rw [spelled, List.cons_append] at same
      rwa [(List.cons.inj same).1] at areDigits
    have noQuote : (first == '"' || first == '\'') = false := by
      rw [Bool.or_eq_false_iff, beq_eq_false_iff_ne, beq_eq_false_iff_ne]
      constructor
      all_goals
        rintro rfl
        exact absurd isDigit (by decide)
    rw [noQuote, noDate, noTime, read]
    simp [startsNumber, isDigit]
  next same => exact absurd same (by simp)

end

/-! ## Spellings -/

/-- What starts with a blank is no value. -/
theorem takeValue?_blank {first : Char} (blank : isBlank first = true) (fuel depth : Nat)
    (rest : List Char) : takeValue? fuel depth (first :: rest) = none := by
  cases fuel with
  | zero => rw [takeValue?]
  | succ fuel =>
    rw [isBlank, Bool.or_eq_true, beq_iff_eq, beq_iff_eq] at blank
    have notDigit : first.isDigit = false := by
      rcases blank with rfl | rfl <;> rfl
    have noDate : startsDate (first :: rest) = false := by
      simp [startsDate, notDigit]
    have noTime : startsTime (first :: rest) = false := by
      unfold startsTime
      split
      next same =>
        rw [← (List.cons.inj same).1, notDigit, Bool.false_and]
      next => rfl
    rcases blank with rfl | rfl
    all_goals simp [takeValue?, noDate, noTime, startsNumber]

/-- No blanks stand before what is read as a value. -/
theorem skipBlanks_of_takeValue? {fuel depth : Nat} {chars : List Char} {result : Value × List Char}
    (read : takeValue? fuel depth chars = some result) : skipBlanks chars = chars := by
  cases chars with
  | nil => rfl
  | cons first rest =>
    have notBlank : isBlank first = false := by
      by_contra blank
      rw [takeValue?_blank (Bool.not_eq_false _ ▸ blank)] at read
      cases read
    simp [skipBlanks, notBlank]

/-- A spelling is read as a value, up to the end of its line. -/
def Spells (spelling : String) (value : Value) : Prop :=
  ∀ fuel rest, spelling.toList.length < fuel →
    takeValue? fuel 0 (spelling.toList ++ '\n' :: rest) = some (value, '\n' :: rest)

/-- A text is spelled between its quotes. -/
theorem spells_text (text : String) : Spells (printText text) (.text text) := by
  intro fuel rest enough
  obtain ⟨fuel, rfl⟩ : ∃ less, fuel = less + 1 := ⟨fuel - 1, by omega⟩
  have read := takeValue?_text text.toList ('\n' :: rest) (startsApart_cons (by decide) rest)
    (startsApart_cons (by decide) rest) fuel 0
  rw [String.ofList_toList] at read
  rwa [printText, String.toList_ofList]

/-- Texts are spelled between brackets. -/
theorem spells_texts (texts : List String) :
    Spells (printTexts texts) (.array (texts.map .text)) := by
  intro fuel rest enough
  obtain ⟨fuel, rfl⟩ : ∃ less, fuel = less + 1 := ⟨fuel - 1, by omega⟩
  refine takeValue?_texts texts _ (by decide) ?_
  have longer := length_le_length_listed texts
  rw [toList_printTexts, List.length_cons, List.length_append] at enough
  simp only [List.length_cons, List.length_nil] at enough
  omega

/-- A truth value is spelled by its name. -/
theorem spells_truth (truth : Bool) :
    Spells (if truth then "true" else "false") (.boolean truth) := by
  intro fuel rest enough
  obtain ⟨fuel, rfl⟩ : ∃ less, fuel = less + 1 := ⟨fuel - 1, by omega⟩
  cases truth <;> simp [takeValue?]

/-- A number of sixty-four bits is spelled by its digits. -/
theorem spells_natural {number : Nat} (small : number < integerBound) :
    Spells (toString number) (.integer number) := by
  intro fuel rest enough
  obtain ⟨fuel, rfl⟩ : ∃ less, fuel = less + 1 := ⟨fuel - 1, by omega⟩
  have digits : (toString number).toList = Nat.toDigits 10 number := by
    simp [toString, Nat.repr]
  rw [digits]
  exact takeValue?_toDigits number rest small fuel 0

end Hotload.Toml
