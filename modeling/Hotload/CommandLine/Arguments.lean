/-!
# Command-line arguments

A call names one command, which has operands and may have options of its own. Some options may stand
before or after the command; of two values, the one after it counts. An option is given once at each
of the two places. `parse` reads the arguments from left to right and stops at the first that cannot
be right.
-/

namespace Hotload.CommandLine

/-- What a call asks for. -/
inductive Command where
  /-- Load containers, then look up symbols. -/
  | load (containers symbols : List String)
  /-- Define a symbol from a file with its bytecode. -/
  | define (name bytecode : String)
  /-- Reset the cache. -/
  | purge
  deriving DecidableEq, Repr

/-- The options that every command has. -/
structure Options where
  config : Option String := none
  cacheDirectory : Option String := none
  isNative : Bool := false
  isVerbose : Bool := false
  deriving DecidableEq, Repr

/-- How the arguments are to be taken. -/
inductive Parsed where
  | run (options : Options) (command : Command)
  /-- The version is asked for. -/
  | version
  /-- A description of the program is asked for. -/
  | help
  /-- The arguments make no call. -/
  | misused
  deriving DecidableEq, Repr

/-- The commands by name. -/
inductive Verb where
  | load
  | define
  | purge
  deriving DecidableEq, Repr

/-- The command of a name. -/
def Verb.ofName? : String → Option Verb
  | "load" => some .load
  | "define" => some .define
  | "purge" => some .purge
  | _ => none

/-- What was read so far at one place. -/
structure Place where
  /-- The command, once it was read. -/
  verb : Option Verb := none
  options : Options := {}
  operands : List String := []
  symbols : List String := []
  deriving DecidableEq, Repr

/-- Whether an argument can be the value of an option or an operand. -/
def isValue (argument : String) : Bool :=
  argument.toList.head? ≠ some '-' ∨ argument = "-"

/-- Sets an option that takes a path. It is set at most once, and not to nothing. -/
def setPath (old : Option String) (value : String) : Option (Option String) :=
  if old.isSome ∨ value = "" then none else some (some value)

/-- Sets an option with a value. -/
def Place.set (place : Place) (name value : String) : Option Place :=
  match name with
  | "config" => do
    let config ← setPath place.options.config value
    some { place with options := { place.options with config } }
  | "cache-dir" => do
    let cacheDirectory ← setPath place.options.cacheDirectory value
    some { place with options := { place.options with cacheDirectory } }
  | "resolve" =>
    if place.verb = some .load then some { place with symbols := place.symbols ++ [value] }
    else none
  | _ => none

/-- Whether an option takes a value, at a place where it is known. -/
def Place.takesValue (place : Place) (name : String) : Bool :=
  name = "config" || name = "cache-dir" || (name = "resolve" && place.verb = some .load)

/-- Sets an option without a value. -/
def Place.switch (place : Place) (name : String) : Option Place :=
  match name with
  | "dylib" =>
    if place.options.isNative then none
    else some { place with options := { place.options with isNative := true } }
  | "verbose" => some { place with options := { place.options with isVerbose := true } }
  | _ => none

/-- Adds an operand; a command has room for only so many. Paths must not be empty. -/
def Place.addOperand (place : Place) (value : String) : Option Place :=
  let next := { place with operands := place.operands ++ [value] }
  match place.verb with
  | some .load => if value = "" then none else some next
  | some .define =>
    match place.operands with
    | [] => some next
    | [_] => if value = "" then none else some next
    | _ => none
  | _ => none

/-- The options at both places taken together. -/
def Options.merge (outer inner : Options) : Options :=
  ⟨inner.config.orElse fun _ => outer.config,
    inner.cacheDirectory.orElse fun _ => outer.cacheDirectory,
    outer.isNative || inner.isNative, outer.isVerbose || inner.isVerbose⟩

/-- The call, when all arguments are read. -/
def Place.finish (outer : Options) (place : Place) : Parsed :=
  let options := outer.merge place.options
  match place.verb, place.operands with
  | some .load, first :: rest => .run options (.load (first :: rest) place.symbols)
  | some .define, [name, bytecode] => .run options (.define name bytecode)
  | some .purge, [] => .run options .purge
  | _, _ => .misused

/-- What a group of short options leads to. -/
inductive Grouped where
  | done (place : Place)
  /-- The last of them takes the next argument as its value. -/
  | wanting (place : Place) (name : String)
  | stop (parsed : Parsed)

/-- Reads short options that stand together. -/
def readGroup (place : Place) : List Char → Grouped
  | [] => .done place
  | 'v' :: rest =>
    match place.switch "verbose" with
    | some next => readGroup next rest
    | none => .stop .misused
  | 'h' :: _ => .stop .help
  | 'V' :: _ => .stop (if place.verb.isNone then .version else .misused)
  | 'r' :: rest =>
    if !place.takesValue "resolve" then .stop .misused
    else
      match rest with
      | [] => .wanting place "resolve"
      | '=' :: value =>
        match place.set "resolve" (String.ofList value) with
        | some next => .done next
        | none => .stop .misused
      | value =>
        match place.set "resolve" (String.ofList value) with
        | some next => .done next
        | none => .stop .misused
  | _ => .stop .misused

/-- Reads an option with a long name, whose value may follow an equals sign. -/
def readLong (place : Place) (chars : List Char) : Grouped :=
  let name := String.ofList (chars.takeWhile (· ≠ '='))
  match chars.dropWhile (· ≠ '=') with
  | [] =>
    if name = "help" then .stop .help
    else if name = "version" then .stop (if place.verb.isNone then .version else .misused)
    else if place.takesValue name then .wanting place name
    else match place.switch name with
      | some next => .done next
      | none => .stop .misused
  | _ :: value =>
    if place.takesValue name then
      match place.set name (String.ofList value) with
      | some next => .done next
      | none => .stop .misused
    else .stop .misused

/-- Reads operands only, which is what a double dash asks for. -/
def readOperands (outer : Options) (place : Place) : List String → Parsed
  | [] => place.finish outer
  | argument :: rest =>
    match place.addOperand argument with
    | some next => readOperands outer next rest
    | none => .misused

/-- Reads arguments at a place. `wanted` is the option whose value comes next. -/
def read (outer : Options) (place : Place) (wanted : Option String) : List String → Parsed
  | [] => if wanted.isSome then .misused else place.finish outer
  | argument :: rest =>
    match wanted with
    | some name =>
      if !isValue argument then .misused
      else match place.set name argument with
        | some next => read outer next none rest
        | none => .misused
    | none =>
      if argument = "--" then readOperands outer place rest
      else if isValue argument then
        match place.verb with
        | some _ =>
          match place.addOperand argument with
          | some next => read outer next none rest
          | none => .misused
        | none =>
          match Verb.ofName? argument with
          | some verb => read place.options { verb := some verb } none rest
          | none => if argument = "help" then .help else .misused
      else
        let grouped :=
          match argument.toList with
          | '-' :: '-' :: chars => readLong place chars
          | chars => readGroup place (chars.drop 1)
        match grouped with
        | .done next => read outer next none rest
        | .wanting next name => read outer next (some name) rest
        | .stop parsed => parsed

/-- Reads the arguments of a call. -/
def parse (arguments : List String) : Parsed :=
  read {} {} none arguments

end Hotload.CommandLine
