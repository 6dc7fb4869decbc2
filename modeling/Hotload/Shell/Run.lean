import Hotload.Shell.Parser
import Hotload.Shell.Tools

/-!
# Running shell scripts

Words are expanded, commands run, and outputs sent where they are redirected. `runProgram` is what a
call of a program by name leads to: the shell runs its script, and no other program is there.
-/

namespace Hotload.Shell

/-- Whether a text fits a pattern, in which a star stands for anything and a question mark for one
character. Quoted characters stand for themselves. -/
def fits : List (Char × Bool) → List Char → Bool
  | [], text => text.isEmpty
  | ('*', false) :: pattern, text =>
    fits pattern text || (match text with
      | [] => false
      | _ :: rest => fits (('*', false) :: pattern) rest)
  | ('?', false) :: pattern, text =>
    match text with
    | [] => false
    | _ :: rest => fits pattern rest
  | (char, _) :: pattern, text =>
    match text with
    | [] => false
    | first :: rest => first == char && fits pattern rest
termination_by pattern text => (pattern.length + text.length, pattern.length)

/-- The number at the start of an arithmetic expression, and what follows. -/
def takeOperand : List Char → Int × List Char
  | chars =>
    let start := chars.dropWhile Char.isWhitespace
    let (isMinus, start) := match start with
      | '-' :: rest => (true, rest)
      | other => (false, other)
    let value : Int := ((String.ofList (start.takeWhile Char.isDigit)).toNat?.getD 0 : Nat)
    (if isMinus then -value else value, start.dropWhile Char.isDigit)

/-- Goes on with a product whose value so far is known. -/
def takeProduct : Nat → Int → List Char → Int × List Char
  | 0, value, chars => (value, chars)
  | fuel + 1, value, chars =>
    match chars.dropWhile Char.isWhitespace with
    | '*' :: rest => let (next, rest) := takeOperand rest; takeProduct fuel (value * next) rest
    | '/' :: rest => let (next, rest) := takeOperand rest; takeProduct fuel (value.tdiv next) rest
    | '%' :: rest => let (next, rest) := takeOperand rest; takeProduct fuel (value.tmod next) rest
    | rest => (value, rest)

/-- Goes on with a sum whose value so far is known. -/
def takeSum : Nat → Int → List Char → Int
  | 0, value, _ => value
  | fuel + 1, value, chars =>
    let term := fun rest =>
      let (first, rest) := takeOperand rest
      takeProduct fuel first rest
    match chars.dropWhile Char.isWhitespace with
    | '+' :: rest => let (next, rest) := term rest; takeSum fuel (value + next) rest
    | '-' :: rest => let (next, rest) := term rest; takeSum fuel (value - next) rest
    | _ => value

/-- Puts the values of variables in place of their names. -/
def fillNames (state : State) : Nat → List Char → List Char
  | 0, _ => []
  | _, [] => []
  | fuel + 1, char :: rest =>
    if char.isAlpha || char == '_' then
      let name := (char :: rest).takeWhile isNameChar
      ((state.value? (String.ofList name)).getD "0").toList
        ++ fillNames state fuel ((char :: rest).drop name.length)
    else char :: fillNames state fuel rest

/-- The value of an arithmetic expression. -/
def evaluate (state : State) (text : String) : Int :=
  let chars := fillNames state (text.length + 1) text.toList
  let (first, rest) := takeOperand chars
  let (value, rest) := takeProduct chars.length first rest
  takeSum chars.length value rest

/-- What a piece of a word expands to. -/
inductive Expanded where
  | text (content : String) (isQuoted : Bool)
  /-- All arguments, each a word of its own. -/
  | arguments (contents : List String)

/-- Splits a text at blanks; the parts of the first and last word join what stands beside them. -/
def splitFields (text : String) : List String :=
  let normal := text.map fun char => if char == '\n' || char == '\t' then ' ' else char
  (normal.splitOn " ").filter (· ≠ "")

/-- Joins expanded pieces into words. The word under construction is `none` before anything that
counts as a word was seen. -/
def joinPieces : List Expanded → Option String → List String
  | [], none => []
  | [], some word => [word]
  | .text content true :: rest, word => joinPieces rest (some (word.getD "" ++ content))
  | .arguments contents :: rest, word =>
    match contents with
    | [] => joinPieces rest word
    | first :: others =>
      let words := (word.getD "" ++ first) :: others
      words.dropLast ++ joinPieces rest words.getLast?
  | .text content false :: rest, word =>
    let startsApart := (content.toList.head?.any Char.isWhitespace) && word.isSome
    let endsApart := content.toList.getLast?.any Char.isWhitespace
    match splitFields content with
    | [] =>
      if content.isEmpty then joinPieces rest word
      else word.toList ++ joinPieces rest none
    | first :: others =>
      let words :=
        if startsApart then word.toList ++ first :: others
        else (word.getD "" ++ first) :: others
      if endsApart then words ++ joinPieces rest none
      else words.dropLast ++ joinPieces rest words.getLast?

/-- Runs commands on states. -/
abbrev Runner := Command → State → State

/-- Runs a command apart and gives back what it wrote, without the newlines at the end. -/
def capture (run : Runner) (command : Command) (state : State) : String × State :=
  let after := run command { state with standard := [] }
  let text := Text.ofUtf8Lossy (State.joined after.standard)
  (String.ofList (text.toList.reverse.dropWhile (· == '\n')).reverse,
    { state with files := after.files, diagnostic := after.diagnostic, status := after.status })

mutual

/-- The text of a word that is not split. -/
def expandText (run : Runner) (state : State) : Word → String × State
  | [] => ("", state)
  | piece :: rest =>
    let (first, state) := expandPiece run state piece
    let (others, state) := expandText run state rest
    let text := match first with
      | .text content _ => content
      | .arguments contents => " ".intercalate contents
    (text ++ others, state)

/-- What a piece of a word expands to. -/
def expandPiece (run : Runner) (state : State) : Piece → Expanded × State
  | .literal text _ => (.text text true, state)
  | .parameter name fallback isQuoted =>
    if name = "@" && isQuoted then (.arguments state.arguments, state)
    else
      match state.value? name with
      | some value =>
        if value.isEmpty then
          let (text, state) := expandText run state fallback
          (.text text isQuoted, state)
        else (.text value isQuoted, state)
      | none =>
        let (text, state) := expandText run state fallback
        (.text text isQuoted, state)
  | .arithmetic pieces =>
    let (text, state) := expandText run state pieces
    (.text (toString (evaluate state text)) true, state)
  | .output command isQuoted =>
    let (text, state) := capture run command state
    (.text text isQuoted, state)

end

/-- The expanded pieces of a word. -/
def expandPieces (run : Runner) : Word → State → List Expanded × State
  | [], state => ([], state)
  | piece :: rest, state =>
    let (first, state) := expandPiece run state piece
    let (others, state) := expandPieces run rest state
    (first :: others, state)

/-- The words that words expand to. -/
def expandWords (run : Runner) : List Word → State → List String × State
  | [], state => ([], state)
  | word :: rest, state =>
    let (pieces, state) := expandPieces run word state
    let (others, state) := expandWords run rest state
    (joinPieces pieces none ++ others, state)

/-- The characters of a pattern, each with whether it was quoted. -/
def expandPattern (run : Runner) : Word → State → List (Char × Bool) × State
  | [], state => ([], state)
  | .literal text isQuoted :: rest, state =>
    let (others, state) := expandPattern run rest state
    (text.toList.map (·, isQuoted) ++ others, state)
  | piece :: rest, state =>
    let (text, state) := expandText run state [piece]
    let (others, state) := expandPattern run rest state
    (text.toList.map (·, true) ++ others, state)

/-- Whether a text fits one of the patterns. -/
def fitsAny (run : Runner) (text : String) : List Word → State → Bool × State
  | [], state => (false, state)
  | pattern :: rest, state =>
    let (chars, state) := expandPattern run pattern state
    if fits chars text.toList then (true, state) else fitsAny run text rest state

/-- Where an output goes while a command runs. -/
inductive Sink where
  | standard
  | diagnostic
  | file (path : String)
  deriving DecidableEq

/-- Opens what redirections name. The result holds where the two outputs go, and the state with
files opened, or with the failure reported. -/
def redirect (run : Runner) : List Redirection → Sink × Sink → State → Option (Sink × Sink) × State
  | [], sinks, state => (some sinks, state)
  | .redirect stream destination word :: rest, (first, second), state =>
    match destination with
    | .standard =>
      redirect run rest (if stream = 2 then (first, first) else (first, second)) state
    | .diagnostic =>
      redirect run rest (if stream = 1 then (second, second) else (first, second)) state
    | .file append =>
      let (path, state) := expandText run state word
      if stream = 0 then
        if path = "/dev/null" then redirect run rest (first, second) { state with input := [] }
        else
          match state.files.read path with
          | .ok content => redirect run rest (first, second) { state with input := content }
          | .error _ =>
            (none, state.fail 2 (state.name ++ ": 1: cannot open " ++ path ++ ": No such file"))
      else
        let sinks := if stream = 2 then (first, .file path) else (.file path, second)
        if path = "/dev/null" then redirect run rest sinks state
        else
          let content := if append then (state.files.read path).toOption.getD [] else []
          match state.files.write path content with
          | .ok files => redirect run rest sinks { state with files }
          | .error error =>
            let why := if error = .notFound then "Directory nonexistent" else reason error
            (none, state.fail 2 (state.name ++ ": 1: cannot create " ++ path ++ ": " ++ why))

/-- Sends an output to where it goes. -/
def send (content : Bytes) (state : State) : Sink → State
  | .standard => state.write content
  | .diagnostic => { state with diagnostic := content :: state.diagnostic }
  | .file path =>
    if path = "/dev/null" || content.isEmpty then state
    else
      let before := (state.files.read path).toOption.getD []
      match state.files.write path (before ++ content) with
      | .ok files => { state with files }
      | .error _ => state

/-- Runs something with its outputs redirected. -/
def withRedirections (run : Runner) (redirections : List Redirection) (body : State → State)
    (state : State) : State :=
  if redirections.isEmpty then body state
  else
    match redirect run redirections (.standard, .diagnostic) state with
    | (none, state) => state
    | (some (first, second), opened) =>
      let after := body { opened with standard := [], diagnostic := [] }
      let restored :=
        { after with
          standard := opened.standard, diagnostic := opened.diagnostic, input := state.input }
      send (State.joined after.diagnostic)
        (send (State.joined after.standard) restored first) second

/-- The file name of a tool that is called by its path. -/
def toolName (name : String) : String :=
  if name.startsWith "/bin/" || name.startsWith "/usr/bin/" then Path.unitName name else name

/-- Calls a tool. One that takes the place of the script is the last. -/
def call (words : List String) (state : State) : State :=
  match words with
  | [] => state.withStatus 0
  | "exec" :: first :: rest =>
    let after := call (first :: rest) state
    { after with ending := after.ending.orElse fun _ => some (.exited after.status) }
  | name :: arguments =>
    match tool? (toolName name) with
    | some tool => tool arguments state
    | none =>
      if name.contains '/' && state.files.isFile name then
        state.fail 126 (state.name ++ ": 1: " ++ name ++ ": Permission denied")
      else state.fail 127 (state.name ++ ": 1: " ++ name ++ ": not found")

/-- Runs a body for each word. -/
def runEach (run : Runner) (name : String) (body : Command) : List String → State → State
  | [], state => state
  | word :: rest, state =>
    if state.ending.isSome then state
    else runEach run name body rest (run body (state.assign name word))

/-- Runs the arm whose pattern fits first. -/
def runArms (run : Runner) (text : String) : List (List Word × Command) → State → State
  | [], state => state.withStatus 0
  | (patterns, body) :: rest, state =>
    let (isFit, state) := fitsAny run text patterns state
    if isFit then run body state else runArms run text rest state

/-- Sets variables one after the other. -/
def assignAll (run : Runner) : List (String × Word) → State → State
  | [], state => state
  | (name, word) :: rest, state =>
    let (value, state) := expandText run state word
    assignAll run rest (state.assign name value)

/-- Runs a command. The fuel bounds the number of steps, so a loop without end is cut off. -/
def runCommand : Nat → Runner
  | 0 => fun _ state => { state with ending := some .killed }
  | fuel + 1 => fun command state =>
    let run := runCommand fuel
    if state.ending.isSome then state
    else
      match command with
      | .nothing => state
      | .simple assignments words redirections =>
        let (words, expanded) := expandWords run words state
        if words.isEmpty then
          withRedirections run redirections (fun state => state.withStatus 0)
            (assignAll run assignments expanded)
        else withRedirections run redirections (call words) (assignAll run assignments expanded)
      | .both first second => run second (run first state)
      | .depending onSuccess first second =>
        let after := run first state
        if (after.status == 0) == onSuccess then run second after else after
      | .negated command =>
        let after := run command state
        after.withStatus (if after.status = 0 then 1 else 0)
      | .piped first second =>
        let left := run first { state with standard := [] }
        let right := run second
          { left with
            standard := state.standard, input := State.joined left.standard, ending := none
            bindings := state.bindings }
        { right with input := state.input, bindings := state.bindings }
      | .branch condition body otherwise =>
        let after := run condition state
        if after.status = 0 then run body after
        else run otherwise (after.withStatus 0)
      | .loop whileTrue condition body =>
        let after := run condition state
        if after.ending.isSome then after
        else if (after.status == 0) == whileTrue then
          run (.loop whileTrue condition body) (run body after)
        else after.withStatus 0
      | .forEach name words body =>
        let (words, expanded) := expandWords run words state
        runEach run name body words (expanded.withStatus 0)
      | .choice word arms =>
        let (text, expanded) := expandText run state word
        runArms run text arms expanded
      | .group isApart command redirections =>
        let after := withRedirections run redirections (run command) state
        if isApart then
          let status := match after.ending with
            | some (.exited code) => code
            | _ => after.status
          let ending := if after.ending = some .killed then after.ending else none
          { after with
            bindings := state.bindings, arguments := state.arguments, status, ending }
        else after

/-- How many steps a script may take. -/
def stepLimit : Nat := 100000

/-- Splits the arguments of the shell into option letters, whether a script follows, and the
rest. -/
def splitShellOptions : List String → String × Bool × List String
  | [] => ("", false, [])
  | argument :: rest =>
    if argument.startsWith "-" && argument.length > 1 && argument ≠ "--" then
      let letters := (argument.drop 1).toString
      let (options, hasScript, others) := splitShellOptions rest
      (String.ofList (letters.toList.filter (· ≠ 'c')) ++ options,
        letters.contains 'c' || hasScript, others)
    else ("", false, argument :: rest)

/-- What a script leaves behind. -/
def result (state : State) : Compiler.ProgramResult :=
  let code : Option Int := match state.ending with
    | none => some (state.status : Nat)
    | some (.exited code) => some (code : Nat)
    | some .killed => none
  ⟨code, State.joined state.standard, State.joined state.diagnostic⟩

/-- Runs a script. -/
def runScript (script name : String) (arguments : List String) (options : String) (files : Files) :
    Files × Compiler.ProgramResult :=
  let state : State := { files, name, arguments, options }
  match parse? script with
  | none => (files, result (state.fail 2 (name ++ ": 1: Syntax error")))
  | some command =>
    let after := runCommand stepLimit command state
    (after.files, result after)

/-- Runs the shell. Without an option that a script follows, its first argument names a file with
the script. -/
def runShell (program : String) (arguments : List String) (files : Files) :
    Files × Compiler.ProgramResult :=
  let (options, hasScript, rest) := splitShellOptions arguments
  match hasScript, rest with
  | true, script :: name :: others => runScript script name others options files
  | true, [script] => runScript script program [] options files
  | true, [] =>
    (files, ⟨some 2, [], Text.utf8 (program ++ ": 0: -c requires an argument\n")⟩)
  | false, [] => (files, ⟨some 0, [], []⟩)
  | false, path :: others =>
    match (files.read path).toOption.bind Text.ofUtf8? with
    | some script => runScript script path others options files
    | none =>
      let diagnostic := program ++ ": 0: cannot open " ++ path ++ ": No such file\n"
      (files, ⟨some 2, [], Text.utf8 diagnostic⟩)

/-- Where the shell is found. -/
def shellPaths : List String :=
  ["sh", "/bin/sh", "/usr/bin/sh", "dash", "/bin/dash", "/usr/bin/dash"]

/-- The tools that are also programs of their own. -/
def programs : List String :=
  ["cp", "mv", "rm", "mkdir", "touch", "ln", "cat", "head", "tail", "wc", "seq", "tr", "true",
    "false", "echo", "printf", "test", "[", "kill", "sleep", "sync", "chmod", "pwd"]

/-- Runs a program by its name. A name without a separator is searched for where programs are kept,
and a path has to lead to a file that may be run. -/
def runProgram : Compiler.ProgramRunner :=
  fun program arguments files =>
    if (program :: arguments).any (·.contains '\x00') then (files, .error .unusableData)
    else if shellPaths.contains program then
      let (after, result) := runShell program arguments files
      (after, .ok result)
    else if program = "." || program = ".." then (files, .error .permissionDenied)
    else if programs.contains (toolName program) then
      let after := call (program :: arguments) { files, name := program, arguments := [] }
      (after.files, .ok (result after))
    else if !program.contains '/' then (files, .error .notFound)
    else
      match files.status program with
      | .error error => (files, .error error)
      | .ok _ => (files, .error .permissionDenied)

end Hotload.Shell
