/-!
# Shell scripts

An external compiler is often a line of shell. This is the syntax of the part of the shell language
that such lines use: simple commands with redirections, lists, pipelines, conditions, loops and
case distinctions.
-/

namespace Hotload.Shell

/-- Where an output is sent. -/
inductive Destination where
  | standard
  | diagnostic
  | file (append : Bool)
  deriving DecidableEq, Repr

mutual

/-- A piece of a word. Quoted pieces are neither split nor dropped when empty. -/
inductive Piece where
  | literal (text : String) (isQuoted : Bool)
  | parameter (name : String) (fallback : List Piece) (isQuoted : Bool)
  | arithmetic (text : List Piece)
  | output (command : Command) (isQuoted : Bool)

/-- A redirection of one of the outputs, or of the input where `stream` is zero. -/
inductive Redirection where
  | redirect (stream : Nat) (destination : Destination) (word : List Piece)

/-- A command. -/
inductive Command where
  | nothing
  | simple (assignments : List (String × List Piece)) (words : List (List Piece))
      (redirections : List Redirection)
  | both (first second : Command)
  /-- The second runs if the first succeeds, or if it fails. -/
  | depending (onSuccess : Bool) (first second : Command)
  | negated (command : Command)
  | piped (first second : Command)
  | branch (condition body otherwise : Command)
  | loop (whileTrue : Bool) (condition body : Command)
  | forEach (name : String) (words : List (List Piece)) (body : Command)
  | choice (word : List Piece) (arms : List (List (List Piece) × Command))
  /-- Commands in brackets; in round ones, variables set inside are lost. -/
  | group (isApart : Bool) (command : Command) (redirections : List Redirection)

end

/-- A word, before anything in it is expanded. -/
abbrev Word := List Piece

end Hotload.Shell
