import Hotload.Shell.State

/-!
# The tools that scripts call

Each tool gets its arguments and the state of the script. Files that cannot be read or written are
reported on the diagnostic output, and the status tells of it.
-/

namespace Hotload.Shell

/-- A tool. -/
abbrev Tool := List String → State → State

/-- Up to `count` octal digits, as a number, and what follows. -/
def takeOctal : Nat → Nat → List Char → Nat × List Char
  | count + 1, value, char :: rest =>
    if '0' ≤ char && char ≤ '7' then takeOctal count (8 * value + (char.toNat - 48)) rest
    else (value, char :: rest)
  | _, value, rest => (value, rest)

/-- The character that a letter stands for after a backslash. -/
def escapeChar? : Char → Option Char
  | 'n' => some '\n'
  | 't' => some '\t'
  | 'r' => some '\r'
  | 'a' => some '\x07'
  | 'b' => some '\x08'
  | 'f' => some '\x0c'
  | 'v' => some '\x0b'
  | '\\' => some '\\'
  | _ => none

/-- Writes a text with its escapes resolved. A byte is written by its octal number, which starts
with a zero if `withZero` says so; `\c` ends all output, which the second result tells. -/
def unescape (withZero : Bool) : Nat → List Char → Bytes × Bool
  | 0, _ => ([], false)
  | _, [] => ([], false)
  | fuel + 1, '\\' :: char :: rest =>
    if char == 'c' && withZero then ([], true)
    else
      match escapeChar? char with
      | some found =>
        let (bytes, ended) := unescape withZero fuel rest
        (Text.utf8 (String.singleton found) ++ bytes, ended)
      | none =>
        if char == '0' && withZero then
          let (value, rest) := takeOctal 3 0 rest
          let (bytes, ended) := unescape withZero fuel rest
          (UInt8.ofNat value :: bytes, ended)
        else if !withZero && '0' ≤ char && char ≤ '7' then
          let (value, rest) := takeOctal 3 0 (char :: rest)
          let (bytes, ended) := unescape withZero fuel rest
          (UInt8.ofNat value :: bytes, ended)
        else
          let (bytes, ended) := unescape withZero fuel rest
          (Text.utf8 (String.ofList ['\\', char]) ++ bytes, ended)
  | fuel + 1, char :: rest =>
    let (bytes, ended) := unescape withZero fuel rest
    (Text.utf8 (String.singleton char) ++ bytes, ended)

/-- Writes its arguments. -/
def echo : Tool :=
  fun arguments state =>
    let (isBare, words) := match arguments with
      | "-n" :: rest => (true, rest)
      | words => (false, words)
    let text := " ".intercalate words
    let (bytes, ended) := unescape true (text.length + 1) text.toList
    (state.write (bytes ++ if isBare || ended then [] else [10])).withStatus 0

/-- Fills arguments into a format. The result holds the arguments that are left, and whether any was
used. -/
def format : Nat → List Char → List String → Bytes × List String × Bool
  | 0, _, arguments => ([], arguments, false)
  | _, [], arguments => ([], arguments, false)
  | fuel + 1, '%' :: '%' :: rest, arguments =>
    let (bytes, left, used) := format fuel rest arguments
    (37 :: bytes, left, used)
  | fuel + 1, '%' :: kind :: rest, arguments =>
    let argument := arguments.head?.getD ""
    let text :=
      if kind == 'd' || kind == 'i' || kind == 'u' then
        Text.utf8 (toString (argument.toInt?.getD 0))
      else if kind == 'c' then Text.utf8 (String.ofList (argument.toList.take 1))
      else if kind == 'b' then (unescape true (argument.length + 1) argument.toList).1
      else if kind == 'x' then
        Text.utf8 (String.ofList (Nat.toDigits 16 (argument.toNat?.getD 0)))
      else Text.utf8 argument
    let (bytes, left, _) := format fuel rest (arguments.drop 1)
    (text ++ bytes, left, true)
  | fuel + 1, '\\' :: char :: rest, arguments =>
    let taken := if '0' ≤ char && char ≤ '7' then (takeOctal 3 0 (char :: rest)).2 else rest
    let piece := ('\\' :: char :: rest).take (rest.length + 2 - taken.length)
    let (bytes, left, used) := format fuel taken arguments
    ((unescape false (piece.length + 1) piece).1 ++ bytes, left, used)
  | fuel + 1, char :: rest, arguments =>
    let (bytes, left, used) := format fuel rest arguments
    (Text.utf8 (String.singleton char) ++ bytes, left, used)

/-- Fills arguments into a format again and again until none is left. -/
def formatAll (pattern : List Char) : Nat → List String → Bytes
  | 0, _ => []
  | fuel + 1, arguments =>
    let (bytes, left, used) := format (pattern.length + 1) pattern arguments
    if used && !left.isEmpty then bytes ++ formatAll pattern fuel left else bytes

/-- Writes its arguments in a given format. -/
def printf : Tool :=
  fun arguments state =>
    match (match arguments with | "--" :: rest => rest | other => other) with
    | [] => state.fail 2 (state.name ++ ": 1: printf: usage: printf format [arg ...]")
    | pattern :: rest =>
      (state.write (formatAll pattern.toList (rest.length + 1) rest)).withStatus 0

/-- The options and the operands of a call. -/
def splitOptions : List String → List Char × List String
  | [] => ([], [])
  | "--" :: rest => ([], rest)
  | argument :: rest =>
    if argument.startsWith "-" && argument.length > 1 then
      let (options, operands) := splitOptions rest
      (argument.toList.drop 1 ++ options, operands)
    else ([], argument :: rest)

/-- Where a file goes that is sent to a path: into a directory, under its own name. -/
def targetFor (files : Files) (source target : String) : String :=
  if files.isDirectory target then Path.join target (Path.unitName source) else target

/-- Copies or moves files to the last operand. -/
def sendEach (tool : String) (send : Files → String → String → Files × Except FileError Unit)
    (target : String) : List String → State → State
  | [], state => state
  | source :: rest, state =>
    let place := targetFor state.files source target
    let failed := fun error =>
      if error = .invalidInput then
        state.fail 1 (tool ++ ": '" ++ source ++ "' and '" ++ place ++ "' are the same file")
      else state.fail 1 (tool ++ ": cannot create '" ++ place ++ "': " ++ reason error)
    let next :=
      if !state.files.exists_ source then
        state.fail 1 (tool ++ ": cannot stat '" ++ source ++ "': No such file or directory")
      else
        match send state.files source place with
        | (files, .ok ()) => { state with files }
        | (_, .error error) => failed error
    sendEach tool send target rest next

/-- A tool that sends files to its last operand. -/
def sender (tool : String) (send : Files → String → String → Files × Except FileError Unit) :
    Tool :=
  fun arguments state =>
    let operands := (splitOptions arguments).2
    match operands.getLast?, operands.dropLast with
    | some target, first :: sources =>
      sendEach tool send target (first :: sources) (state.withStatus 0)
    | some operand, [] =>
      state.fail 1 (tool ++ ": missing destination file operand after '" ++ operand ++ "'")
    | none, _ => state.fail 1 (tool ++ ": missing file operand")

/-- Copies one file; a file is not copied onto itself. -/
def copyFile (files : Files) (source target : String) : Files × Except FileError Unit :=
  match files.status source, files.status target with
  | .ok (here, .file _ _), .ok (there, _) =>
    if here = there then (files, .error .invalidInput)
    else match files.copy source target with
      | (after, .ok _) => (after, .ok ())
      | (_, .error error) => (files, .error error)
  | .ok (_, .file _ _), .error _ =>
    match files.copy source target with
    | (after, .ok _) => (after, .ok ())
    | (_, .error error) => (files, .error error)
  | _, _ => (files, .error .isADirectory)

/-- Moves one file. -/
def moveFile (files : Files) (source target : String) : Files × Except FileError Unit :=
  match files.rename source target with
  | .ok after => (after, .ok ())
  | .error error => (files, .error error)

/-- Changes each operand in turn; what is refused is reported, unless it may be passed over. -/
def changeEach (tool verb : String) (mayPass : FileError → Bool)
    (change : Files → String → Except FileError Files) : List String → State → State
  | [], state => state
  | path :: rest, state =>
    let next :=
      match change state.files path with
      | .ok files => { state with files }
      | .error error =>
        if mayPass error then state
        else state.fail 1 (tool ++ ": cannot " ++ verb ++ " '" ++ path ++ "': " ++ reason error)
    changeEach tool verb mayPass change rest next

/-- Removes files, and directories if asked to. -/
def remove : Tool :=
  fun arguments state =>
    let (options, operands) := splitOptions arguments
    let isDeep := options.contains 'r' || options.contains 'R'
    let isForced := options.contains 'f'
    let change := fun (files : Files) path =>
      if isDeep && files.isDirectory path then files.removeTree path else files.unlink path
    changeEach "rm" "remove" (fun error => isForced && error = .notFound) change operands
      (state.withStatus 0)

/-- Makes directories, with those above them if asked to. -/
def makeDirectory : Tool :=
  fun arguments state =>
    let (options, operands) := splitOptions arguments
    let change := fun (files : Files) path =>
      if options.contains 'p' then
        match files.makeDirectories path with
        | (after, .ok ()) => .ok after
        | (_, .error error) => .error error
      else files.makeDirectory path
    changeEach "mkdir" "create directory" (fun _ => false) change operands (state.withStatus 0)

/-- Makes files that are missing, and gives those that are there the present time. -/
def touch : Tool :=
  fun arguments state =>
    let change := fun (files : Files) path =>
      if files.exists_ path then
        if files.isFile path then files.touch path files.clock else .ok files
      else files.write path []
    let operands := (splitOptions arguments).2
    changeEach "touch" "touch" (fun _ => false) change operands (state.withStatus 0)

/-- Makes links. -/
def link : Tool :=
  fun arguments state =>
    match (splitOptions arguments).2 with
    | [target, path] =>
      match state.files.symlink target path with
      | .ok files => { state with files, status := 0 }
      | .error error =>
        state.fail 1 ("ln: failed to create symbolic link '" ++ path ++ "': " ++ reason error)
    | _ => state.fail 1 "ln: missing file operand"

/-- The content of the operands, one after the other; without operands, the input. -/
def concatenate : Tool :=
  fun arguments state =>
    match (splitOptions arguments).2 with
    | [] => (state.write state.input).withStatus 0
    | operands =>
      operands.foldl
        (fun state path =>
          if path = "-" then state.write state.input
          else
            match state.files.read path with
            | .ok content => state.write content
            | .error error => state.fail 1 ("cat: " ++ path ++ ": " ++ reason error))
        (state.withStatus 0)

/-- The stretches of bytes that end in a newline, and what follows the last newline. -/
def splitLines : Bytes → List Bytes
  | [] => []
  | byte :: rest =>
    if byte = 10 then [byte] :: splitLines rest
    else
      match splitLines rest with
      | [] => [[byte]]
      | line :: lines => (byte :: line) :: lines

/-- Which part of a file a tool is asked for, and the operands. Without an option it is ten lines. -/
def takeExtent : List String → Bool × Nat × List String
  | "-c" :: count :: operands => (true, count.toNat?.getD 0, operands)
  | "-n" :: count :: operands => (false, count.toNat?.getD 0, operands)
  | argument :: operands =>
    match argument.toList with
    | '-' :: 'c' :: count => (true, (String.ofList count).toNat?.getD 0, operands)
    | '-' :: 'n' :: count => (false, (String.ofList count).toNat?.getD 0, operands)
    | '-' :: digit :: count => (false, (String.ofList (digit :: count)).toNat?.getD 0, operands)
    | _ => (false, 10, argument :: operands)
  | [] => (false, 10, [])

/-- A tool that writes one end of a file or of the input. -/
def extract (tool : String) (bytes : Nat → Bytes → Bytes) (lines : Nat → List Bytes → List Bytes) :
    Tool :=
  fun arguments state =>
    let (isBytes, count, operands) := takeExtent arguments
    let part := fun content =>
      if isBytes then bytes count content else (lines count (splitLines content)).flatten
    match operands with
    | path :: _ =>
      match state.files.read path with
      | .ok content => (state.write (part content)).withStatus 0
      | .error error =>
        state.fail 1 (tool ++ ": cannot open '" ++ path ++ "' for reading: " ++ reason error)
    | [] => (state.write (part state.input)).withStatus 0

/-- Counts the bytes or the lines of a file or of the input. -/
def count : Tool :=
  fun arguments state =>
    let (options, operands) := splitOptions arguments
    let measure := fun (content : Bytes) =>
      toString (if options.contains 'l' then content.count 10 else content.length)
    match operands with
    | path :: _ =>
      match state.files.read path with
      | .ok content =>
        (state.write (Text.utf8 (measure content ++ " " ++ path ++ "\n"))).withStatus 0
      | .error error => state.fail 1 ("wc: " ++ path ++ ": " ++ reason error)
    | [] => (state.write (Text.utf8 (measure state.input ++ "\n"))).withStatus 0

/-- Writes the numbers from one to another, a line for each. -/
def sequence : Tool :=
  fun arguments state =>
    let write := fun first step last =>
      let numbers := (List.range ((last + step - first) / step)).map (first + step * ·)
      (state.write (numbers.flatMap fun number => Text.utf8 (toString number ++ "\n"))).withStatus 0
    match arguments.mapM String.toNat? with
    | some [last] => write 1 1 last
    | some [first, last] => write first 1 last
    | some [first, step, last] => write first step last
    | _ => state.fail 1 "seq: missing operand"

/-- The bytes that a set names; a dash between two stands for those from one to the other. -/
def expandRanges : Bytes → Bytes
  | first :: 45 :: last :: rest =>
    (List.range (last.toNat + 1 - first.toNat)).map (fun step => first + UInt8.ofNat step)
      ++ expandRanges rest
  | byte :: rest => byte :: expandRanges rest
  | [] => []

/-- Replaces bytes of one set by those of another, of which the last counts for all that remain, or
deletes them. -/
def exchange : Tool :=
  fun arguments state =>
    let expand := fun (text : String) =>
      expandRanges (unescape false (text.length + 1) text.toList).1
    match arguments with
    | ["-d", dropped] =>
      let dropped := expand dropped
      (state.write (state.input.filter fun byte => !dropped.contains byte)).withStatus 0
    | [sources, targets] =>
      let sources := expand sources
      let targets := expand targets
      let change := fun byte =>
        match sources.idxOf? byte with
        | some index => (targets[index]?.or targets.getLast?).getD byte
        | none => byte
      (state.write (state.input.map change)).withStatus 0
    | _ => state.fail 1 "tr: missing operand"

/-- Sends a signal to the script itself, which ends it. -/
def kill : Tool :=
  fun arguments state =>
    if arguments.contains State.processNumber && !arguments.contains "-0" then
      { state with ending := some .killed }
    else state.withStatus 1

/-- Leaves the script with a status, of which the last eight bits count. -/
def leave : Tool :=
  fun arguments state =>
    match arguments with
    | [] => { state with ending := some (.exited state.status) }
    | code :: _ =>
      match code.toNat? with
      | some value => { state with ending := some (.exited (value % 256)) }
      | none =>
        { state.fail 2 (state.name ++ ": 1: exit: Illegal number: " ++ code) with
          ending := some (.exited 2) }

/-- Takes arguments of the script away. -/
def shift : Tool :=
  fun arguments state =>
    let count := (arguments.head?.bind String.toNat?).getD 1
    { state with arguments := state.arguments.drop count, status := 0 }

/-- Sets options by their letters, or else the arguments of the script. -/
def set : Tool :=
  fun arguments state =>
    match arguments with
    | "--" :: rest => { state with arguments := rest, status := 0 }
    | first :: rest =>
      if first.startsWith "-" then
        { state with options := state.options ++ (first.drop 1).toString, status := 0 }
      else { state with arguments := first :: rest, status := 0 }
    | [] => state.withStatus 0

/-- The truth of a condition on texts, numbers and files. -/
def holds (files : Files) : List String → Bool
  | [] => false
  | [text] => !text.isEmpty
  | "!" :: rest => !holds files rest
  | ["-z", text] => text.isEmpty
  | ["-n", text] => !text.isEmpty
  | ["-f", path] => files.isFile path
  | ["-d", path] => files.isDirectory path
  | ["-e", path] => files.exists_ path
  | ["-s", path] => (files.size path).toOption.any (· > 0)
  | ["-r", path] | ["-w", path] => files.exists_ path
  | ["-L", path] | ["-h", path] =>
    match files.locate false path with
    | .ok (.taken _ (.link _)) => true
    | _ => false
  | [left, "=", right] => left == right
  | [left, "!=", right] => left != right
  | [left, relation, right] =>
    match left.trimAscii.toString.toInt?, right.trimAscii.toString.toInt? with
    | some left, some right =>
      match relation with
      | "-eq" => left == right
      | "-ne" => left != right
      | "-lt" => left < right
      | "-le" => left ≤ right
      | "-gt" => left > right
      | "-ge" => left ≥ right
      | _ => false
    | _, _ => false
  | _ => false

/-- Tests a condition. -/
def test : Tool :=
  fun arguments state => state.withStatus (if holds state.files arguments then 0 else 1)

/-- The tool of a name. -/
def tool? (name : String) : Option Tool :=
  match name with
  | "echo" => some echo
  | "printf" => some printf
  | ":" | "true" | "sleep" | "sync" | "wait" | "chmod" => some fun _ state => state.withStatus 0
  | "false" => some fun _ state => state.withStatus 1
  | "exit" | "return" => some leave
  | "kill" => some kill
  | "shift" => some shift
  | "set" => some set
  | "cp" => some (sender "cp" copyFile)
  | "mv" => some (sender "mv" moveFile)
  | "rm" => some remove
  | "mkdir" => some makeDirectory
  | "touch" => some touch
  | "ln" => some link
  | "cat" => some concatenate
  | "head" => some (extract "head" List.take List.take)
  | "tail" =>
    some (extract "tail" (fun count content => content.drop (content.length - count))
      (fun count lines => lines.drop (lines.length - count)))
  | "wc" => some count
  | "seq" => some sequence
  | "tr" => some exchange
  | "pwd" => some fun _ state =>
    (state.write (Text.utf8 ("/" ++ "/".intercalate Files.workingDirectory ++ "\n"))).withStatus 0
  | "test" => some test
  | "[" => some fun arguments => test arguments.dropLast
  | _ => none

end Hotload.Shell
