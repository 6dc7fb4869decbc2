import Hotload.Shell.Syntax

/-!
# Reading shell scripts

The reader goes through the characters of a script once. Every function takes fuel, and the length
of the script is always enough, because each step reads at least one character or goes one level
deeper into the grammar.
-/

namespace Hotload.Shell

/-- Whether a character separates words without meaning anything. -/
def isBlank (char : Char) : Bool :=
  char == ' ' || char == '\t'

/-- Whether an unquoted character ends a word. -/
def endsWord (char : Char) : Bool :=
  isBlank char || char == '\n' || char == ';' || char == '&' || char == '|' || char == '<'
    || char == '>' || char == '(' || char == ')'

/-- Whether a character may stand in a name. -/
def isNameChar (char : Char) : Bool :=
  char.isAlphanum || char == '_'

/-- Skips blanks, continued lines and a comment. -/
def skipSpace : List Char → List Char
  | ' ' :: rest => skipSpace rest
  | '\t' :: rest => skipSpace rest
  | '\\' :: '\n' :: rest => skipSpace rest
  | '#' :: rest => rest.dropWhile (· ≠ '\n')
  | chars => chars

/-- Skips everything between two commands that are on lines of their own. -/
def skipLines : Nat → List Char → List Char
  | 0, chars => chars
  | fuel + 1, chars =>
    match skipSpace chars with
    | '\n' :: rest => skipLines fuel rest
    | start => start

/-- The characters up to a single quote, and what follows it. -/
def takeSingle? (chars : List Char) : Option (String × List Char) :=
  match chars.dropWhile (· ≠ '\'') with
  | _ :: rest => some (String.ofList (chars.takeWhile (· ≠ '\'')), rest)
  | [] => none

/-- The name of a variable, or one of the special parameters. -/
def takeName (chars : List Char) : String × List Char :=
  match chars with
  | char :: rest =>
    if char.isDigit || "@*#?$-!".toList.contains char then (String.singleton char, rest)
    else (String.ofList (chars.takeWhile isNameChar), chars.dropWhile isNameChar)
  | [] => ("", [])

/-- Words that end a list of commands. -/
def closers : List String :=
  ["then", "else", "elif", "fi", "do", "done", "esac", "\x7d"]

/-- Whether a reserved word comes next, and what follows it. -/
def takeReserved? (word : String) (chars : List Char) : Option (List Char) :=
  let start := skipSpace chars
  if word.toList.isPrefixOf start then
    let rest := start.drop word.length
    if rest.isEmpty || rest.head?.any endsWord then some rest else none
  else none

/-- Whether a list of commands ends here. -/
def isAtCloser (chars : List Char) : Bool :=
  let start := skipSpace chars
  start.isEmpty || start.head? = some ')' || ";;".toList.isPrefixOf start
    || closers.any fun word => (takeReserved? word start).isSome

mutual

/-- Reads what follows a dollar sign. -/
def takeExpansion? : Nat → Bool → List Char → Option (Piece × List Char)
  | 0, _, _ => none
  | fuel + 1, isQuoted, chars =>
    match chars with
    | '(' :: '(' :: rest => do
      let (pieces, rest) ← takeQuoted? fuel (fun rest => "))".toList.isPrefixOf rest) rest
      some (.arithmetic pieces, rest.drop 2)
    | '(' :: rest => do
      let (command, rest) ← takeList? fuel rest
      match skipLines rest.length rest with
      | ')' :: rest => some (.output command isQuoted, rest)
      | _ => none
    | '\x7b' :: rest => do
      let (name, rest) := takeName rest
      match rest with
      | ':' :: '-' :: rest => do
        let (fallback, rest) ← takeQuoted? fuel (·.head? = some '\x7d') rest
        some (.parameter name fallback isQuoted, rest.drop 1)
      | '\x7d' :: rest => some (.parameter name [] isQuoted, rest)
      | _ => none
    | _ =>
      let (name, rest) := takeName chars
      if name.isEmpty then some (.literal "$" isQuoted, chars)
      else some (.parameter name [] isQuoted, rest)

/-- Reads pieces as in double quotes, up to where `isEnd` says. -/
def takeQuoted? : Nat → (List Char → Bool) → List Char → Option (Word × List Char)
  | 0, _, _ => none
  | fuel + 1, isEnd, chars =>
    if isEnd chars then some ([], chars)
    else
      match chars with
      | [] => none
      | '$' :: rest => do
        let (piece, rest) ← takeExpansion? fuel true rest
        let (pieces, rest) ← takeQuoted? fuel isEnd rest
        some (piece :: pieces, rest)
      | '\\' :: '\n' :: rest => takeQuoted? fuel isEnd rest
      | '\\' :: char :: rest => do
        let (pieces, rest) ← takeQuoted? fuel isEnd rest
        let text := if "$\"\\".toList.contains char then [char] else ['\\', char]
        some (.literal (String.ofList text) true :: pieces, rest)
      | char :: rest => do
        let (pieces, rest) ← takeQuoted? fuel isEnd rest
        some (.literal (String.singleton char) true :: pieces, rest)

/-- Reads a word. -/
def takeWord? : Nat → List Char → Option (Word × List Char)
  | 0, _ => none
  | fuel + 1, chars =>
    match chars with
    | [] => some ([], [])
    | '\'' :: rest => do
      let (text, rest) ← takeSingle? rest
      let (pieces, rest) ← takeWord? fuel rest
      some (.literal text true :: pieces, rest)
    | '"' :: rest => do
      let (quoted, rest) ← takeQuoted? fuel (·.head? = some '"') rest
      let (pieces, rest) ← takeWord? fuel (rest.drop 1)
      some (.literal "" true :: quoted ++ pieces, rest)
    | '$' :: rest => do
      let (piece, rest) ← takeExpansion? fuel false rest
      let (pieces, rest) ← takeWord? fuel rest
      some (piece :: pieces, rest)
    | '\\' :: '\n' :: rest => takeWord? fuel rest
    | '\\' :: char :: rest => do
      let (pieces, rest) ← takeWord? fuel rest
      some (.literal (String.singleton char) true :: pieces, rest)
    | char :: rest =>
      if endsWord char then some ([], chars)
      else do
        let (pieces, rest) ← takeWord? fuel rest
        some (.literal (String.singleton char) false :: pieces, rest)

/-- Reads a redirection, if one comes next. -/
def takeRedirection? : Nat → List Char → Option (Redirection × List Char)
  | 0, _ => none
  | fuel + 1, chars =>
    let (stream, start) :=
      match chars with
      | '1' :: '>' :: rest => (1, '>' :: rest)
      | '2' :: '>' :: rest => (2, '>' :: rest)
      | '0' :: '<' :: rest => (0, '<' :: rest)
      | '<' :: rest => (0, '<' :: rest)
      | other => (1, other)
    match start with
    | '>' :: '&' :: '1' :: rest => some (.redirect stream .standard [], rest)
    | '>' :: '&' :: '2' :: rest => some (.redirect stream .diagnostic [], rest)
    | '>' :: '>' :: rest => do
      let (word, rest) ← takeWord? fuel (skipSpace rest)
      some (.redirect stream (.file true) word, rest)
    | '>' :: '|' :: rest => do
      let (word, rest) ← takeWord? fuel (skipSpace rest)
      some (.redirect stream (.file false) word, rest)
    | '>' :: rest => do
      let (word, rest) ← takeWord? fuel (skipSpace rest)
      some (.redirect stream (.file false) word, rest)
    | '<' :: rest => do
      let (word, rest) ← takeWord? fuel (skipSpace rest)
      some (.redirect 0 (.file false) word, rest)
    | _ => none

/-- Reads redirections for as long as they come. -/
def takeRedirections? : Nat → List Char → Option (List Redirection × List Char)
  | 0, _ => none
  | fuel + 1, chars =>
    match takeRedirection? fuel (skipSpace chars) with
    | some (redirection, rest) => do
      let (others, rest) ← takeRedirections? fuel rest
      some (redirection :: others, rest)
    | none => some ([], chars)

/-- Reads the words and redirections of a simple command. Assignments count only before the first
word. -/
def takeSimple? : Nat → Bool → List Char →
    Option (List (String × Word) × List Word × List Redirection × List Char)
  | 0, _, _ => none
  | fuel + 1, mayAssign, chars =>
    let start := skipSpace chars
    match takeRedirection? fuel start with
    | some (redirection, rest) => do
      let (assignments, words, redirections, rest) ← takeSimple? fuel mayAssign rest
      some (assignments, words, redirection :: redirections, rest)
    | none =>
      if start.isEmpty || start.head?.any endsWord then some ([], [], [], start)
      else
        let (name, after) := takeName start
        let isName := !name.isEmpty && !start.head?.any Char.isDigit
        if mayAssign && isName && after.head? = some '=' then do
          let (value, rest) ← takeWord? fuel (after.drop 1)
          let (assignments, words, redirections, rest) ← takeSimple? fuel true rest
          some ((name, value) :: assignments, words, redirections, rest)
        else do
          let (word, rest) ← takeWord? fuel start
          let (assignments, words, redirections, rest) ← takeSimple? fuel false rest
          some (assignments, word :: words, redirections, rest)

/-- Reads words up to the end of the command. -/
def takeWords? : Nat → List Char → Option (List Word × List Char)
  | 0, _ => none
  | fuel + 1, chars =>
    let start := skipSpace chars
    if start.isEmpty || start.head?.any endsWord then some ([], start)
    else do
      let (word, rest) ← takeWord? fuel start
      let (words, rest) ← takeWords? fuel rest
      some (word :: words, rest)

/-- Reads the patterns of an arm, up to the bracket that ends them. -/
def takePatterns? : Nat → List Char → Option (List Word × List Char)
  | 0, _ => none
  | fuel + 1, chars => do
    let (pattern, rest) ← takeWord? fuel (skipSpace chars)
    match skipSpace rest with
    | '|' :: rest => do
      let (patterns, rest) ← takePatterns? fuel rest
      some (pattern :: patterns, rest)
    | ')' :: rest => some ([pattern], rest)
    | _ => none

/-- Reads the arms of a case distinction. -/
def takeArms? : Nat → List Char → Option (List (List Word × Command) × List Char)
  | 0, _ => none
  | fuel + 1, chars =>
    let start := skipLines chars.length chars
    match takeReserved? "esac" start with
    | some rest => some ([], rest)
    | none => do
      let first := if start.head? = some '(' then start.drop 1 else start
      let (patterns, rest) ← takePatterns? fuel first
      let (command, rest) ← takeList? fuel rest
      match skipLines rest.length rest with
      | ';' :: ';' :: rest => do
        let (arms, rest) ← takeArms? fuel rest
        some ((patterns, command) :: arms, rest)
      | rest => do
        let rest ← takeReserved? "esac" rest
        some ([(patterns, command)], rest)

/-- Reads what follows the condition of a branch. -/
def takeBranch? : Nat → List Char → Option (Command × List Char)
  | 0, _ => none
  | fuel + 1, chars => do
    let (condition, rest) ← takeList? fuel chars
    let rest ← takeReserved? "then" rest
    let (body, rest) ← takeList? fuel rest
    match takeReserved? "elif" rest, takeReserved? "else" rest with
    | some rest, _ => do
      let (otherwise, rest) ← takeBranch? fuel rest
      some (.branch condition body otherwise, rest)
    | none, some rest => do
      let (otherwise, rest) ← takeList? fuel rest
      let rest ← takeReserved? "fi" rest
      some (.branch condition body otherwise, rest)
    | none, none => do
      let rest ← takeReserved? "fi" rest
      some (.branch condition body .nothing, rest)

/-- Reads one command. -/
def takeCommand? : Nat → List Char → Option (Command × List Char)
  | 0, _ => none
  | fuel + 1, chars =>
    let start := skipSpace chars
    let wrap := fun (isApart : Bool) (command : Command) (rest : List Char) => do
      let (redirections, rest) ← takeRedirections? fuel rest
      some (if redirections.isEmpty && !isApart then command
        else .group isApart command redirections, rest)
    match takeReserved? "if" start, takeReserved? "while" start, takeReserved? "until" start,
        takeReserved? "for" start, takeReserved? "case" start, takeReserved? "!" start with
    | some rest, _, _, _, _, _ => do
      let (command, rest) ← takeBranch? fuel rest
      wrap false command rest
    | _, some rest, _, _, _, _ => do
      let (condition, rest) ← takeList? fuel rest
      let rest ← takeReserved? "do" rest
      let (body, rest) ← takeList? fuel rest
      let rest ← takeReserved? "done" rest
      wrap false (.loop true condition body) rest
    | _, _, some rest, _, _, _ => do
      let (condition, rest) ← takeList? fuel rest
      let rest ← takeReserved? "do" rest
      let (body, rest) ← takeList? fuel rest
      let rest ← takeReserved? "done" rest
      wrap false (.loop false condition body) rest
    | _, _, _, some rest, _, _ => do
      let (name, rest) := takeName (skipSpace rest)
      let rest ← takeReserved? "in" rest
      let (words, rest) ← takeWords? fuel rest
      let rest := match skipSpace rest with
        | ';' :: rest => rest
        | rest => rest
      let rest ← takeReserved? "do" (skipLines rest.length rest)
      let (body, rest) ← takeList? fuel rest
      let rest ← takeReserved? "done" rest
      wrap false (.forEach name words body) rest
    | _, _, _, _, some rest, _ => do
      let (word, rest) ← takeWord? fuel (skipSpace rest)
      let rest ← takeReserved? "in" (skipLines rest.length rest)
      let (arms, rest) ← takeArms? fuel rest
      wrap false (.choice word arms) rest
    | _, _, _, _, _, some rest => do
      let (command, rest) ← takeCommand? fuel rest
      some (.negated command, rest)
    | none, none, none, none, none, none =>
      match start with
      | '(' :: rest => do
        let (command, rest) ← takeList? fuel rest
        match skipLines rest.length rest with
        | ')' :: rest => wrap true command rest
        | _ => none
      | _ =>
        match takeReserved? "\x7b" start with
        | some rest => do
          let (command, rest) ← takeList? fuel rest
          let rest ← takeReserved? "\x7d" rest
          wrap false command rest
        | none => do
          let (assignments, words, redirections, rest) ← takeSimple? fuel true start
          if assignments.isEmpty && words.isEmpty && redirections.isEmpty then none
          else some (.simple assignments words redirections, rest)

/-- Reads a pipeline. -/
def takePipeline? : Nat → List Char → Option (Command × List Char)
  | 0, _ => none
  | fuel + 1, chars => do
    let (first, rest) ← takeCommand? fuel chars
    match skipSpace rest with
    | '|' :: '|' :: rest => some (first, '|' :: '|' :: rest)
    | '|' :: rest => do
      let (second, rest) ← takePipeline? fuel (skipLines rest.length rest)
      some (.piped first second, rest)
    | rest => some (first, rest)

/-- Reads the rest of a chain of pipelines that depend on each other. -/
def takeChain? : Nat → Command → List Char → Option (Command × List Char)
  | 0, _, _ => none
  | fuel + 1, first, chars =>
    match skipSpace chars with
    | '&' :: '&' :: rest => do
      let (second, rest) ← takePipeline? fuel (skipLines rest.length rest)
      takeChain? fuel (.depending true first second) rest
    | '|' :: '|' :: rest => do
      let (second, rest) ← takePipeline? fuel (skipLines rest.length rest)
      takeChain? fuel (.depending false first second) rest
    | rest => some (first, rest)

/-- Reads commands up to a word or a sign that ends the list. -/
def takeList? : Nat → List Char → Option (Command × List Char)
  | 0, _ => none
  | fuel + 1, chars =>
    let start := skipLines chars.length chars
    if isAtCloser start then some (.nothing, start)
    else do
      let (first, rest) ← takePipeline? fuel start
      let (chain, rest) ← takeChain? fuel first rest
      match skipSpace rest with
      | ';' :: ';' :: rest => some (chain, ';' :: ';' :: rest)
      | ';' :: rest => do
        let (others, rest) ← takeList? fuel rest
        some (.both chain others, rest)
      | '\n' :: rest => do
        let (others, rest) ← takeList? fuel rest
        some (.both chain others, rest)
      | rest => some (chain, rest)

end

/-- Reads a whole script. -/
def parse? (script : String) : Option Command :=
  let chars := script.toList
  match takeList? (8 * chars.length + 16) chars with
  | some (command, rest) => if (skipLines rest.length rest).isEmpty then some command else none
  | none => none

end Hotload.Shell
