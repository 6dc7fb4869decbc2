import Hotload.Bytes

/-!
# Writing TOML

A document is written line by line. A text gets the plainest quoting that can hold it: basic quotes
if nothing in it needs an escape, then literal quotes, then their triple forms, and escapes only if
all else fails.
-/

namespace Hotload.Toml

/-- What decides how a text is quoted. -/
structure TextTraits where
  /-- The longest run of double quotes. -/
  doubleRun : Nat
  /-- The longest run of single quotes. -/
  singleRun : Nat
  hasBackslash : Bool
  hasNewline : Bool
  /-- Whether there is a character that only an escape can write. -/
  needsEscape : Bool
  deriving DecidableEq, Repr

/-- The longest run of a character. -/
def longestRun (wanted : Char) (chars : List Char) : Nat :=
  (chars.foldl (fun (longest, current) char =>
    let run := if char == wanted then current + 1 else 0
    (max longest run, run)) (0, 0)).1

/-- Whether a character can only be written by an escape. -/
def isControl (char : Char) : Bool :=
  (char.toNat < 32 && char ≠ '\t' && char ≠ '\n') || char.toNat = 127

/-- The traits of a text. -/
def TextTraits.of (chars : List Char) : TextTraits :=
  ⟨longestRun '"' chars, longestRun '\'' chars, chars.contains '\\', chars.contains '\n',
    chars.any isControl⟩

/-- The escape of a character. -/
def escaped (char : Char) : List Char :=
  match char with
  | '\x08' => ['\\', 'b']
  | '\t' => ['\\', 't']
  | '\n' => ['\\', 'n']
  | '\x0c' => ['\\', 'f']
  | '\r' => ['\\', 'r']
  | '"' => ['\\', '"']
  | '\\' => ['\\', '\\']
  | other =>
    if isControl other then
      let code := other.toNat
      ['\\', 'u', '0', '0'] ++
        [Bytes.hexDigit (code / 16), Bytes.hexDigit (code % 16)].map Char.toUpper
    else [other]

/-- Writes a text with escapes. Within triple quotes, newlines stand as they are and up to two
double quotes in a row do as well; `run` counts those just written. -/
def escapeText (isTriple : Bool) : Nat → List Char → List Char
  | _, [] => []
  | run, '"' :: rest =>
    if isTriple && run < 2 then '"' :: escapeText isTriple (run + 1) rest
    else escaped '"' ++ escapeText isTriple 0 rest
  | _, '\n' :: rest =>
    (if isTriple then ['\n'] else escaped '\n') ++ escapeText isTriple 0 rest
  | _, char :: rest => escaped char ++ escapeText isTriple 0 rest

/-- Sets a text between triple quotes; one that has several lines starts on a line of its own. -/
def inTripleQuotes (quote : Char) (traits : TextTraits) (content : List Char) : List Char :=
  let fence := [quote, quote, quote]
  fence ++ (if traits.hasNewline then ['\n'] else []) ++ content ++ fence

/-- Writes a text in the plainest quoting that can hold it. -/
def quoteText (chars : List Char) : List Char :=
  let traits := TextTraits.of chars
  if !traits.needsEscape && !traits.hasBackslash && traits.doubleRun = 0 && !traits.hasNewline then
    '"' :: escapeText false 0 chars ++ ['"']
  else if !traits.needsEscape && traits.singleRun = 0 && !traits.hasNewline then
    '\'' :: chars ++ ['\'']
  else if !traits.needsEscape && !traits.hasBackslash && traits.doubleRun ≤ 2 then
    inTripleQuotes '"' traits (escapeText true 0 chars)
  else if !traits.needsEscape && traits.singleRun ≤ 2 then inTripleQuotes '\'' traits chars
  else if traits.hasNewline then inTripleQuotes '"' traits (escapeText true 0 chars)
  else '"' :: escapeText false 0 chars ++ ['"']

/-- The quoted form of a text. -/
def printText (text : String) : String :=
  String.ofList (quoteText text.toList)

/-- The form of a list of texts. -/
def printTexts (texts : List String) : String :=
  "[" ++ ", ".intercalate (texts.map printText) ++ "]"

/-- A line that sets a key. -/
def printLine (key value : String) : String :=
  key ++ " = " ++ value ++ "\n"

/-- A line that opens a table, after an empty one. -/
def printHeader (key : String) : String :=
  "\n[" ++ key ++ "]\n"

end Hotload.Toml
