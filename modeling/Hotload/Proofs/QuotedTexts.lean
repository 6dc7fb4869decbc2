import Hotload.Toml.Lexeme
import Hotload.Toml.Printer
import Mathlib.Data.List.Basic

/-!
# Texts between quotes

Which quotes a text gets is decided by what is in it, and each kind of quotes is read by rules of its
own. Between one and the other nothing is lost: a text of any characters is read from the form that it
is written in. For basic quotes that is one law for a character and its escape. Triple quotes are read
by runs, because up to two quotes belong to the text where three would close it; so their law is about
a text after a run of quotes, and it goes through the text one character at a time.
-/

namespace Hotload.Toml

/-! ## Characters and their escapes -/

/-- A digit in capitals is read as its value. -/
theorem hexValue?_toUpper {value : Nat} (small : value < 16) :
    Bytes.hexValue? (Bytes.hexDigit value).toUpper = some value := by
  have all : ∀ value < 16, Bytes.hexValue? (Bytes.hexDigit value).toUpper = some value := by decide
  exact all value small

/-- A control character has a number of seven bits. -/
theorem toNat_of_isControl {char : Char} (control : isControl char) : char.toNat < 128 := by
  simp only [isControl, Bool.or_eq_true, Bool.and_eq_true, decide_eq_true_eq] at control
  omega

/-- The four digits of a control character are read as the character. -/
theorem takeEscape?_control {char : Char} (small : char.toNat < 128) (rest : List Char) :
    takeEscape? ('u' :: '0' :: '0' :: (Bytes.hexDigit (char.toNat / 16)).toUpper ::
      (Bytes.hexDigit (char.toNat % 16)).toUpper :: rest) = some (char, rest) := by
  have whole : 16 * (16 * (16 * (16 * 0 + 0) + 0) + char.toNat / 16) + char.toNat % 16 =
    char.toNat := by omega
  have scalar : isScalar char.toNat = true := by
    simp only [isScalar, Bool.or_eq_true, decide_eq_true_eq]
    omega
  have zero : Bytes.hexValue? '0' = some 0 := by decide
  simp only [takeEscape?, takeHex?, zero, hexValue?_toUpper (show char.toNat / 16 < 16 by omega),
    hexValue?_toUpper (show char.toNat % 16 < 16 by omega), Option.bind_eq_bind, Option.bind_some,
    whole, scalar, if_true, Char.ofNat_toNat]

/-- A character that is no control character stands for itself, unless it is a newline. -/
theorem isCommentChar_of_not_isControl {char : Char} (noControl : isControl char = false)
    (notNewline : char ≠ '\n') : isCommentChar char = true := by
  simp only [isControl, Bool.or_eq_false_iff, Bool.and_eq_false_iff, decide_eq_false_iff_not,
    ne_eq, not_not] at noControl
  simp only [isCommentChar, Bool.or_eq_true, Bool.and_eq_true, beq_iff_eq, bne_iff_ne,
    decide_eq_true_eq]
  obtain ⟨(large | tab) | newline, notDelete⟩ := noControl
  · exact .inr ⟨by omega, notDelete⟩
  · exact .inl tab
  · exact absurd newline notNewline

/-- A line end is no plain character. -/
theorem takeNewline?_of_isCommentChar {char : Char} (comment : isCommentChar char = true)
    (rest : List Char) : takeNewline? (char :: rest) = none := by
  unfold takeNewline?
  split
  next same =>
    cases same
    exact absurd comment (by decide)
  next same =>
    cases same
    exact absurd comment (by decide)
  next => rfl

/-- How a character is written among others: as itself, or as a backslash and what follows. What
follows starts with a letter or a mark, so the backslash is not taken for one at the end of a line. -/
inductive Written (char : Char) : List Char → Prop where
  | plain (isPlain : isPlain '"' char = true) (noBackslash : char ≠ '\\') : Written char [char]
  | escape (mark : Char) (tail : List Char) (proper : mark ∉ [' ', '\t', '\n', '\r'])
      (isRead : ∀ rest, takeEscape? (mark :: (tail ++ rest)) = some (char, rest)) :
      Written char ('\\' :: mark :: tail)

/-- The escape of a character writes it. -/
theorem written_escaped (char : Char) : Written char (escaped char) := by
  unfold escaped
  split
  case h_8 notBackspace notTab notNewline notFeed notReturn notQuote notBackslash =>
    split
    next control =>
      exact .escape 'u' _ (by decide) fun rest =>
        takeEscape?_control (toNat_of_isControl control) rest
    next noControl =>
      have comment := isCommentChar_of_not_isControl (Bool.eq_false_iff.mpr noControl) notNewline
      refine .plain ?_ notBackslash
      rw [isPlain, comment, Bool.and_true, bne_iff_ne]
      exact notQuote
  all_goals exact .escape _ [] (by decide) fun _ => rfl

/-- What is written for a character starts with no double quote, and with no line end. -/
theorem Written.head {char : Char} {spelling : List Char} (written : Written char spelling) :
    ∃ first tail, spelling = first :: tail ∧ first ≠ '"' ∧
      ∀ rest, takeNewline? (spelling ++ rest) = none := by
  cases written with
  | plain plain noBackslash =>
    rw [isPlain, Bool.and_eq_true, bne_iff_ne] at plain
    exact ⟨char, [], rfl, plain.1, takeNewline?_of_isCommentChar plain.2⟩
  | escape mark tail proper isRead => exact ⟨'\\', mark :: tail, rfl, by decide, fun _ => rfl⟩

/-- Outside of triple quotes every character is written by its escape. -/
theorem escapeText_single (run : Nat) (chars : List Char) :
    escapeText false run chars = chars.flatMap escaped := by
  induction chars generalizing run with
  | nil => rfl
  | cons char rest inductionHypothesis =>
    unfold escapeText
    split
    next empty => cases empty
    next same =>
      cases same
      simp [inductionHypothesis]
    next same =>
      cases same
      simp [inductionHypothesis]
    next _ _ same =>
      cases same
      simp [inductionHypothesis]

/-- Among other characters, what is written for one is read as it. -/
theorem takeBasic?_written {char : Char} {spelling : List Char} (written : Written char spelling)
    (fuel : Nat) (read rest : List Char) :
    takeBasic? (fuel + 1) read (spelling ++ rest) = takeBasic? fuel (char :: read) rest := by
  cases written with
  | plain plain noBackslash =>
    have noQuote : char ≠ '"' := by
      rw [isPlain, Bool.and_eq_true, bne_iff_ne] at plain
      exact plain.1
    simp only [List.cons_append, List.nil_append, takeBasic?, beq_iff_eq, noQuote, noBackslash,
      plain, if_true, if_false]
  | escape mark tail proper isRead =>
    simp [takeBasic?, isRead]

/-- A text in basic quotes is read up to the closing one. -/
theorem takeBasic?_escapeText (chars read rest : List Char) {fuel : Nat}
    (enough : chars.length < fuel) :
    takeBasic? fuel read (chars.flatMap escaped ++ '"' :: rest) =
      some (read.reverse ++ chars, rest) := by
  obtain ⟨fuel, rfl⟩ : ∃ less, fuel = less + 1 := ⟨fuel - 1, by omega⟩
  induction chars generalizing fuel read with
  | nil => simp [takeBasic?]
  | cons char others inductionHypothesis =>
    rw [List.length_cons] at enough
    obtain ⟨fuel, rfl⟩ : ∃ less, fuel = less + 1 := ⟨fuel - 1, by omega⟩
    rw [List.flatMap_cons, List.append_assoc, takeBasic?_written (written_escaped char),
      inductionHypothesis (char :: read) fuel (by omega), List.reverse_cons, List.append_assoc]
    rfl

/-- A text in literal quotes is read up to the closing one. -/
theorem takeLiteral?_plain (chars read rest : List Char)
    (plain : ∀ char ∈ chars, isPlain '\'' char = true) :
    takeLiteral? read (chars ++ '\'' :: rest) = some (read.reverse ++ chars, rest) := by
  induction chars generalizing read with
  | nil => simp [takeLiteral?]
  | cons char others inductionHypothesis =>
    have first := plain char List.mem_cons_self
    have noQuote : char ≠ '\'' := by
      rw [isPlain, Bool.and_eq_true, bne_iff_ne] at first
      exact first.1
    rw [List.cons_append, takeLiteral?, if_neg (by simpa using noQuote), if_pos first,
      inductionHypothesis (char :: read) fun later member => plain later (.tail _ member),
      List.reverse_cons, List.append_assoc]
    rfl

/-! ## Texts of several lines -/

/-- The lines up to the closing quotes hold a text, however many characters are taken at most, as
long as there are enough, and whatever was read before. -/
def LinesHold (quote : Char) (escapes : Bool) (chars text rest : List Char) : Prop :=
  ∀ fuel read, chars.length < fuel →
    takeLines? quote escapes fuel read chars = some (read.reverse ++ text, rest)

/-- A rest of a document starts with another character than the given one, or is empty. -/
def StartsApart (char : Char) (rest : List Char) : Prop :=
  rest.head? ≠ some char

/-- A rest whose first character is another than the given one starts apart. -/
theorem startsApart_cons {char first : Char} (differs : first ≠ char) (rest : List Char) :
    StartsApart char (first :: rest) :=
  fun same => differs (Option.some.inj same)

/-- A run of a character ends where another one follows. -/
theorem takeWhile_run (quote : Char) (run : Nat) {rest : List Char} (apart : StartsApart quote rest) :
    (List.replicate run quote ++ rest).takeWhile (· == quote) = List.replicate run quote ∧
      (List.replicate run quote ++ rest).dropWhile (· == quote) = rest := by
  induction run with
  | zero =>
    cases rest with
    | nil => exact ⟨rfl, rfl⟩
    | cons first others =>
      have differs : first ≠ quote := fun same => apart (congrArg some same)
      simp [differs]
  | succ run inductionHypothesis => simp [List.replicate_succ, inductionHypothesis]

namespace LinesHold

variable {quote : Char} {escapes : Bool} {chars text rest : List Char}

/-- Up to two quotes may stand before the closing ones. -/
theorem close (quote : Char) (escapes : Bool) {run : Nat} (short : run ≤ 2)
    (apart : StartsApart quote rest) :
    LinesHold quote escapes (List.replicate (run + 3) quote ++ rest) (List.replicate run quote)
      rest := by
  intro fuel read enough
  obtain ⟨fuel, rfl⟩ : ∃ less, fuel = less + 1 := ⟨fuel - 1, by omega⟩
  have others := takeWhile_run quote (run + 2) apart
  rw [List.replicate_succ, List.cons_append, takeLines?]
  simp only [beq_self_eq_true, if_true, others, List.length_replicate]
  rw [if_neg (by omega), closeLines?, if_pos (by omega), show 1 + (run + 2) - 3 = run by omega]
  simp

/-- Fewer than three quotes before another character belong to the text. -/
theorem quotes {run : Nat} (short : run ≤ 2) (apart : StartsApart quote chars)
    (holds : LinesHold quote escapes chars text rest) :
    LinesHold quote escapes (List.replicate run quote ++ chars) (List.replicate run quote ++ text)
      rest := by
  cases run with
  | zero => exact holds
  | succ run =>
    intro fuel read enough
    rw [List.length_append, List.length_replicate] at enough
    obtain ⟨fuel, rfl⟩ : ∃ less, fuel = less + 1 := ⟨fuel - 1, by omega⟩
    have others := takeWhile_run quote run apart
    rw [List.replicate_succ, List.cons_append, takeLines?]
    simp only [beq_self_eq_true, if_true, others, List.length_replicate]
    rw [if_pos (by omega), holds fuel _ (by omega), List.reverse_append, List.reverse_replicate,
      List.append_assoc, show 1 + run = run + 1 by omega, List.replicate_succ]

/-- A newline belongs to the text. -/
theorem newline (differs : quote ≠ '\n') (holds : LinesHold quote escapes chars text rest) :
    LinesHold quote escapes ('\n' :: chars) ('\n' :: text) rest := by
  intro fuel read enough
  rw [List.length_cons] at enough
  obtain ⟨fuel, rfl⟩ : ∃ less, fuel = less + 1 := ⟨fuel - 1, by omega⟩
  rw [takeLines?, if_neg (by simpa using differs.symm), if_neg (by simp)]
  simp only [takeNewline?]
  rw [holds fuel _ (by omega)]
  simp

/-- A plain character belongs to the text. -/
theorem plain {char : Char} (plain : isPlain quote char = true)
    (noEscape : (char == '\\' && escapes) = false)
    (holds : LinesHold quote escapes chars text rest) :
    LinesHold quote escapes (char :: chars) (char :: text) rest := by
  intro fuel read enough
  rw [List.length_cons] at enough
  obtain ⟨fuel, rfl⟩ : ∃ less, fuel = less + 1 := ⟨fuel - 1, by omega⟩
  have parts := plain
  rw [isPlain, Bool.and_eq_true, bne_iff_ne] at parts
  rw [takeLines?, if_neg (by simpa using parts.1), if_neg (by simp [noEscape])]
  simp only [takeNewline?_of_isCommentChar parts.2, plain, if_true]
  rw [holds fuel _ (by omega)]
  simp

/-- What is written for a character stands for it. -/
theorem written {char : Char} {spelling : List Char} (written : Written char spelling)
    (holds : LinesHold '"' true chars text rest) :
    LinesHold '"' true (spelling ++ chars) (char :: text) rest := by
  cases written with
  | plain plain noBackslash => exact holds.plain plain (by simpa using noBackslash)
  | escape mark tail proper isRead =>
    intro fuel read enough
    simp only [List.cons_append, List.length_cons, List.length_append] at enough
    obtain ⟨fuel, rfl⟩ : ∃ less, fuel = less + 1 := ⟨fuel - 1, by omega⟩
    have noBlank : skipBlanks (mark :: (tail ++ chars)) = mark :: (tail ++ chars) := by
      have proper : isBlank mark = false := by
        simp_all [isBlank]
      simp [skipBlanks, List.dropWhile, proper]
    have noNewline : takeNewline? (mark :: (tail ++ chars)) = none := by
      unfold takeNewline?
      split <;> simp_all
    simp only [List.cons_append, takeLines?]
    rw [if_neg (by decide), if_pos (by decide), noBlank, noNewline, isRead]
    simp only [Option.bind_eq_bind, Option.bind_some]
    rw [holds fuel _ (by omega)]
    simp

/-- A text that was written with escapes, after fewer than three double quotes that stand for
themselves. -/
theorem escapeText (apart : StartsApart '"' rest) (chars : List Char) (run : Nat) (short : run ≤ 2) :
    LinesHold '"' true
      (List.replicate run '"' ++ (escapeText true run chars ++ '"' :: '"' :: '"' :: rest))
      (List.replicate run '"' ++ chars) rest := by
  induction chars generalizing run with
  | nil =>
    have closed := close '"' true short apart
    rw [List.replicate_add, List.append_assoc] at closed
    simpa [Toml.escapeText] using closed
  | cons char others inductionHypothesis =>
    have later := inductionHypothesis 0 (by omega)
    rw [List.replicate_zero, List.nil_append, List.nil_append] at later
    by_cases isQuote : char = '"'
    · subst isQuote
      by_cases few : run < 2
      · -- The quote joins the ones before it.
        have joined := inductionHypothesis (run + 1) (by omega)
        rw [List.replicate_add, List.append_assoc, List.append_assoc] at joined
        simpa [Toml.escapeText, few] using joined
      · have spelled := later.written (written_escaped '"')
        have ended := spelled.quotes short (startsApart_cons (by decide) _)
        simpa [Toml.escapeText, few, escaped] using ended
    · by_cases isNewline : char = '\n'
      · subst isNewline
        have ended := (later.newline (by decide)).quotes short (startsApart_cons (by decide) _)
        simpa [Toml.escapeText] using ended
      · obtain ⟨first, tail, begins, noQuote, -⟩ := (written_escaped char).head
        have spelled := later.written (written_escaped char)
        have ended := spelled.quotes short (by simp [StartsApart, begins, noQuote])
        simpa [Toml.escapeText] using ended

end LinesHold

/-- One character more of a run: the longest run so far and the one that lasts. -/
def runStep (wanted : Char) (state : Nat × Nat) (char : Char) : Nat × Nat :=
  let run := if char == wanted then state.2 + 1 else 0
  (max state.1 run, run)

/-- A longest run is found one character after another. -/
theorem longestRun_eq (wanted : Char) (chars : List Char) :
    longestRun wanted chars = (chars.foldl (runStep wanted) (0, 0)).1 :=
  rfl

/-- The longest run only grows. -/
theorem le_foldl_runStep (wanted : Char) (chars : List Char) (state : Nat × Nat) :
    state.1 ≤ (chars.foldl (runStep wanted) state).1 := by
  induction chars generalizing state with
  | nil => exact Nat.le_refl _
  | cons char others inductionHypothesis =>
    exact Nat.le_trans (Nat.le_max_left _ _) (inductionHypothesis (runStep wanted state char))

/-- A character without any run is not there. -/
theorem notMem_of_longestRun {wanted : Char} {chars : List Char} (none : longestRun wanted chars = 0) :
    wanted ∉ chars := by
  rw [longestRun_eq] at none
  generalize (0, 0) = state at none
  induction chars generalizing state with
  | nil => exact List.not_mem_nil
  | cons char others inductionHypothesis =>
    rw [List.foldl_cons] at none
    have short := le_foldl_runStep wanted others (runStep wanted state char)
    intro member
    rcases List.mem_cons.mp member with rfl | later
    · rw [none] at short
      simp only [runStep, beq_self_eq_true, if_true] at short
      omega
    · exact inductionHypothesis _ none later

/-- A text that stands for itself within literal quotes, after fewer than three of them. -/
theorem LinesHold.literal {rest : List Char} (apart : StartsApart '\'' rest) (chars : List Char)
    (noControl : ∀ char ∈ chars, isControl char = false) (longest run : Nat)
    (within : run ≤ longest) (short : (chars.foldl (runStep '\'') (longest, run)).1 ≤ 2) :
    LinesHold '\'' false
      (List.replicate run '\'' ++ (chars ++ '\'' :: '\'' :: '\'' :: rest))
      (List.replicate run '\'' ++ chars) rest := by
  have few : run ≤ 2 := by
    have grows := le_foldl_runStep '\'' chars (longest, run)
    omega
  induction chars generalizing longest run with
  | nil =>
    have closed := close '\'' false few apart
    rw [List.replicate_add, List.append_assoc] at closed
    simpa using closed
  | cons char others inductionHypothesis =>
    have noControls : ∀ other ∈ others, isControl other = false :=
      fun other member => noControl other (.tail _ member)
    rw [List.foldl_cons] at short
    by_cases isQuote : char = '\''
    · subst isQuote
      -- The quote joins the ones before it.
      have grows := le_foldl_runStep '\'' others (max longest (run + 1), run + 1)
      have joined := inductionHypothesis noControls (max longest (run + 1)) (run + 1)
        (Nat.le_max_right _ _) short (by
          have several := Nat.le_trans grows short
          omega)
      rw [List.replicate_add, List.append_assoc, List.append_assoc] at joined
      simpa using joined
    · have apart : StartsApart '\'' (char :: (others ++ '\'' :: '\'' :: '\'' :: rest)) :=
        startsApart_cons isQuote _
      have later := inductionHypothesis noControls longest 0 (Nat.zero_le _)
        (by simpa [runStep, isQuote] using short) (by omega)
      by_cases isNewline : char = '\n'
      · subst isNewline
        exact (later.newline (by decide)).quotes few apart
      · have plain : isPlain '\'' char = true := by
          rw [isPlain, isCommentChar_of_not_isControl (noControl char List.mem_cons_self) isNewline,
            Bool.and_true, bne_iff_ne]
          exact isQuote
        exact (later.plain plain (Bool.and_false _)).quotes few apart

/-! ## The four kinds of quotes -/

/-- A text of several lines starts on a line of its own, and otherwise right after the quotes. -/
theorem skipFirstNewline_fence {hasNewline : Bool} {content : List Char}
    (begins : hasNewline = false → takeNewline? content = none) :
    skipFirstNewline ((if hasNewline then ['\n'] else []) ++ content) = content := by
  cases hasNewline with
  | true => rfl
  | false => simp [skipFirstNewline, begins rfl]

variable {rest : List Char}

/-- Triple double quotes hold every text. -/
theorem takeText?_tripleBasic (apart : StartsApart '"' rest) (chars : List Char) :
    takeText? (inTripleQuotes '"' (TextTraits.of chars) (escapeText true 0 chars) ++ rest) =
      some (String.ofList chars, rest) := by
  have begins : (TextTraits.of chars).hasNewline = false →
      takeNewline? (escapeText true 0 chars ++ '"' :: '"' :: '"' :: rest) = none := by
    intro noNewline
    cases chars with
    | nil => rfl
    | cons char others =>
      obtain ⟨first, tail, -, -, noEnd⟩ := (written_escaped char).head
      by_cases isQuote : char = '"'
      · subst isQuote
        simp [escapeText, takeNewline?]
      · have notNewline : char ≠ '\n' := by
          rintro rfl
          simp [TextTraits.of] at noNewline
        have spelled : escapeText true 0 (char :: others) =
            escaped char ++ escapeText true 0 others := by
          simp [escapeText]
        rw [spelled, List.append_assoc, noEnd]
  have holds := LinesHold.escapeText apart chars 0 (by omega)
  rw [List.replicate_zero, List.nil_append, List.nil_append] at holds
  have skipped := skipFirstNewline_fence begins
  simp only [inTripleQuotes, List.cons_append, List.nil_append, List.append_assoc, takeText?,
    skipped]
  rw [holds _ [] (Nat.lt_succ_self _)]
  rfl

/-- Triple literal quotes hold a text without control characters that has no three of them in a
row. -/
theorem takeText?_tripleLiteral (apart : StartsApart '\'' rest) {chars : List Char}
    (noControl : ∀ char ∈ chars, isControl char = false) (short : longestRun '\'' chars ≤ 2) :
    takeText? (inTripleQuotes '\'' (TextTraits.of chars) chars ++ rest) =
      some (String.ofList chars, rest) := by
  have begins : (TextTraits.of chars).hasNewline = false →
      takeNewline? (chars ++ '\'' :: '\'' :: '\'' :: rest) = none := by
    intro noNewline
    cases chars with
    | nil => rfl
    | cons char others =>
      have notNewline : char ≠ '\n' := by
        rintro rfl
        simp [TextTraits.of] at noNewline
      exact takeNewline?_of_isCommentChar
        (isCommentChar_of_not_isControl (noControl char List.mem_cons_self) notNewline) _
  have holds := LinesHold.literal apart chars noControl 0 0 (Nat.le_refl 0) short
  rw [List.replicate_zero, List.nil_append, List.nil_append] at holds
  have skipped := skipFirstNewline_fence begins
  simp only [inTripleQuotes, List.cons_append, List.nil_append, List.append_assoc, takeText?,
    skipped]
  rw [holds _ [] (Nat.lt_succ_self _)]
  rfl

/-- Escapes do not make a text shorter. -/
theorem length_le_length_escaped (chars : List Char) :
    chars.length ≤ (chars.flatMap escaped).length := by
  induction chars with
  | nil => exact Nat.le_refl 0
  | cons char others inductionHypothesis =>
    obtain ⟨first, tail, begins, -⟩ := (written_escaped char).head
    rw [List.flatMap_cons, begins, List.length_append, List.length_cons, List.length_cons]
    omega

/-- Double quotes hold every text. -/
theorem takeText?_basic (apart : StartsApart '"' rest) (chars : List Char) :
    takeText? ('"' :: escapeText false 0 chars ++ ['"'] ++ rest) =
      some (String.ofList chars, rest) := by
  -- Nothing between the quotes starts with a third one.
  have single : ∀ more, chars.flatMap escaped ++ '"' :: rest ≠ '"' :: '"' :: more := by
    intro more same
    cases chars with
    | nil => exact apart (congrArg List.head? (List.cons.inj same).2)
    | cons char others =>
      obtain ⟨first, tail, begins, noQuote, -⟩ := (written_escaped char).head
      rw [List.flatMap_cons, begins, List.cons_append, List.cons_append] at same
      exact noQuote (List.cons.inj same).1
  have enough : chars.length < (chars.flatMap escaped ++ '"' :: rest).length + 1 := by
    have longer := length_le_length_escaped chars
    rw [List.length_append]
    omega
  simp only [escapeText_single, List.cons_append, List.append_assoc, List.nil_append]
  rw [takeText?, takeBasic?_escapeText chars [] rest enough]
  · rfl
  · exact single

/-- Literal quotes hold a text of one line without control characters and without them. -/
theorem takeText?_literal {chars : List Char} (notEmpty : chars ≠ [])
    (plain : ∀ char ∈ chars, isPlain '\'' char = true) :
    takeText? ('\'' :: chars ++ ['\''] ++ rest) = some (String.ofList chars, rest) := by
  have single : ∀ more, chars ++ '\'' :: rest ≠ '\'' :: '\'' :: more := by
    intro more same
    obtain ⟨char, others, rfl⟩ := List.exists_cons_of_ne_nil notEmpty
    rw [List.cons_append] at same
    have quote := plain char List.mem_cons_self
    rw [(List.cons.inj same).1] at quote
    exact absurd quote (by decide)
  simp only [List.cons_append, List.append_assoc, List.nil_append]
  rw [takeText?, takeLiteral?_plain chars [] rest plain]
  · rfl
  · exact single

/-- Every text is read from the form that it is written in. -/
theorem takeText?_quoteText (apart : StartsApart '"' rest) (apartLiteral : StartsApart '\'' rest)
    (chars : List Char) :
    takeText? (quoteText chars ++ rest) = some (String.ofList chars, rest) := by
  have noControls : (!(TextTraits.of chars).needsEscape) = true →
      ∀ char ∈ chars, isControl char = false := by
    simp [TextTraits.of]
  unfold quoteText
  simp only
  split
  next => exact takeText?_basic apart chars
  next notBasic =>
    split
    next literal =>
      rw [Bool.and_eq_true, Bool.and_eq_true, decide_eq_true_eq] at literal
      obtain ⟨⟨noEscape, noRun⟩, noNewline⟩ := literal
      have notEmpty : chars ≠ [] := by
        rintro rfl
        exact notBasic (by decide)
      refine takeText?_literal notEmpty fun char member => ?_
      have notNewline : char ≠ '\n' := by
        rintro rfl
        simp [TextTraits.of, member] at noNewline
      have notQuote : char ≠ '\'' := by
        rintro rfl
        exact notMem_of_longestRun noRun member
      rw [isPlain, isCommentChar_of_not_isControl (noControls noEscape char member) notNewline,
        Bool.and_true, bne_iff_ne]
      exact notQuote
    next =>
      split
      next => exact takeText?_tripleBasic apart chars
      next =>
        split
        next literal =>
          rw [Bool.and_eq_true, decide_eq_true_eq] at literal
          exact takeText?_tripleLiteral apartLiteral (noControls literal.1) literal.2
        next =>
          split
          next => exact takeText?_tripleBasic apart chars
          next => exact takeText?_basic apart chars

end Hotload.Toml
