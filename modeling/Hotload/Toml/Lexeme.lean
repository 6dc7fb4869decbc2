import Hotload.Text.Utf8

/-!
# TOML lexemes

The pieces that a document is written with: blanks and comments, line ends, quoted texts, bare keys,
numbers and times. A reader takes the characters that remain and returns what it read together with
those after it, or nothing where the document is not well-formed.
-/

namespace Hotload.Toml

/-- A space or a tab. -/
def isBlank (char : Char) : Bool :=
  char == ' ' || char == '\t'

/-- Drops the blanks at the start. -/
def skipBlanks (chars : List Char) : List Char :=
  chars.dropWhile isBlank

/-- Whether a character may stand in a comment: tabs and everything that is no control character. -/
def isCommentChar (char : Char) : Bool :=
  char == '\t' || (0x20 ≤ char.toNat && char.toNat != 0x7F)

/-- Takes a line end: a line feed, or a carriage return and a line feed. -/
def takeNewline? : List Char → Option (List Char)
  | '\n' :: rest => some rest
  | '\r' :: '\n' :: rest => some rest
  | _ => none

/-- Drops a comment, if one starts here. -/
def skipComment : List Char → List Char
  | '#' :: rest => rest.dropWhile isCommentChar
  | chars => chars

/-- Takes the rest of a line: blanks, perhaps a comment, and the line end or the end of the
document. -/
def takeLineEnd? (chars : List Char) : Option (List Char) :=
  match skipComment (skipBlanks chars) with
  | [] => some []
  | rest => takeNewline? rest

/-- Drops blanks, comments and line ends. The fuel is the number of characters. -/
def skipLines : Nat → List Char → List Char
  | 0, chars => chars
  | fuel + 1, chars =>
    let after := skipComment (skipBlanks chars)
    match takeNewline? after with
    | some rest => skipLines fuel rest
    | none => after

/-- Drops blanks and line ends. The fuel is the number of characters. -/
def skipBlankLines : Nat → List Char → List Char
  | 0, chars => chars
  | fuel + 1, chars =>
    let after := skipBlanks chars
    match takeNewline? after with
    | some rest => skipBlankLines fuel rest
    | none => after

/-- Whether a character may stand for itself in a quoted text that ends at `quote`. Escapes are
told apart before. -/
def isPlain (quote char : Char) : Bool :=
  char != quote && isCommentChar char

/-- Reads the given number of hexadecimal digits onto a value. -/
def takeHex? : Nat → Nat → List Char → Option (Nat × List Char)
  | 0, value, rest => some (value, rest)
  | count + 1, value, digit :: rest => do
    let next ← Bytes.hexValue? digit
    takeHex? count (16 * value + next) rest
  | _ + 1, _, [] => none

/-- Whether a number is that of a character. -/
def isScalar (value : Nat) : Bool :=
  value < 0xD800 || (0xDFFF < value && value < 0x110000)

/-- Reads what follows a backslash. -/
def takeEscape? : List Char → Option (Char × List Char)
  | 'b' :: rest => some ('\x08', rest)
  | 't' :: rest => some ('\t', rest)
  | 'n' :: rest => some ('\n', rest)
  | 'f' :: rest => some ('\x0C', rest)
  | 'r' :: rest => some ('\r', rest)
  | '"' :: rest => some ('"', rest)
  | '\\' :: rest => some ('\\', rest)
  | 'u' :: rest => do
    let (value, rest) ← takeHex? 4 0 rest
    if isScalar value then some (Char.ofNat value, rest) else none
  | 'U' :: rest => do
    let (value, rest) ← takeHex? 8 0 rest
    if isScalar value then some (Char.ofNat value, rest) else none
  | _ => none

/-- Reads a one-line text with escapes up to its closing quote. The fuel is the number of
characters. -/
def takeBasic? : Nat → List Char → List Char → Option (List Char × List Char)
  | 0, _, _ => none
  | _, _, [] => none
  | fuel + 1, read, char :: rest =>
    if char == '"' then some (read.reverse, rest)
    else if char == '\\' then do
      let (meant, rest) ← takeEscape? rest
      takeBasic? fuel (meant :: read) rest
    else if isPlain '"' char then takeBasic? fuel (char :: read) rest
    else none

/-- Reads a one-line text without escapes up to its closing quote. -/
def takeLiteral? : List Char → List Char → Option (List Char × List Char)
  | _, [] => none
  | read, char :: rest =>
    if char == '\'' then some (read.reverse, rest)
    else if isPlain '\'' char then takeLiteral? (char :: read) rest
    else none

/-- Ends a text of several lines at a run of quotes: three close it, and up to two more before them
belong to the text. -/
def closeLines? (quote : Char) (run : Nat) (read rest : List Char) :
    Option (List Char × List Char) :=
  if run ≤ 5 then some ((List.replicate (run - 3) quote ++ read).reverse, rest) else none

/-- Reads a text of several lines up to its three closing quotes. A backslash escapes only where
`escapes` holds, and at the end of a line it drops the blank space up to the next character. The
fuel is the number of characters. -/
def takeLines? (quote : Char) (escapes : Bool) :
    Nat → List Char → List Char → Option (List Char × List Char)
  | 0, _, _ => none
  | _, _, [] => none
  | fuel + 1, read, char :: rest =>
    if char == quote then
      let run := 1 + (rest.takeWhile (· == quote)).length
      let after := rest.dropWhile (· == quote)
      if run < 3 then takeLines? quote escapes fuel (List.replicate run quote ++ read) after
      else closeLines? quote run read after
    else if char == '\\' && escapes then
      match takeNewline? (skipBlanks rest) with
      | some after => takeLines? quote escapes fuel read (skipBlankLines after.length after)
      | none => do
        let (meant, rest) ← takeEscape? rest
        takeLines? quote escapes fuel (meant :: read) rest
    else
      match takeNewline? (char :: rest) with
      | some rest => takeLines? quote escapes fuel ('\n' :: read) rest
      | none =>
        if isPlain quote char then takeLines? quote escapes fuel (char :: read) rest else none

/-- Drops the line end right after the opening quotes of a text of several lines. -/
def skipFirstNewline (chars : List Char) : List Char :=
  (takeNewline? chars).getD chars

/-- Reads a quoted text of any of the four kinds. -/
def takeText? : List Char → Option (String × List Char)
  | '"' :: '"' :: '"' :: rest => do
    let body := skipFirstNewline rest
    let (read, rest) ← takeLines? '"' true (body.length + 1) [] body
    some (String.ofList read, rest)
  | '\'' :: '\'' :: '\'' :: rest => do
    let body := skipFirstNewline rest
    let (read, rest) ← takeLines? '\'' false (body.length + 1) [] body
    some (String.ofList read, rest)
  | '"' :: rest => do
    let (read, rest) ← takeBasic? (rest.length + 1) [] rest
    some (String.ofList read, rest)
  | '\'' :: rest => do
    let (read, rest) ← takeLiteral? [] rest
    some (String.ofList read, rest)
  | _ => none

/-- Whether a character may stand in a key without quotes. -/
def isBareKeyChar (char : Char) : Bool :=
  char.isAlphanum || char == '_' || char == '-'

/-- Reads one part of a key: bare, or quoted on one line. -/
def takeSimpleKey? : List Char → Option (String × List Char)
  | '"' :: rest => do
    let (read, rest) ← takeBasic? (rest.length + 1) [] rest
    some (String.ofList read, rest)
  | '\'' :: rest => do
    let (read, rest) ← takeLiteral? [] rest
    some (String.ofList read, rest)
  | chars =>
    let name := chars.takeWhile isBareKeyChar
    if name.isEmpty then none else some (String.ofList name, chars.drop name.length)

/-- Reads the parts of a key, which dots separate and blanks may surround. The fuel bounds the
number of parts. -/
def takeKeyParts? : Nat → List Char → Option (List String × List Char)
  | 0, _ => none
  | fuel + 1, chars => do
    let (part, rest) ← takeSimpleKey? (skipBlanks chars)
    match skipBlanks rest with
    | '.' :: rest => do
      let (parts, rest) ← takeKeyParts? fuel rest
      some (part :: parts, rest)
    | rest => some ([part], rest)

/-- How deep keys, arrays and tables may nest. -/
def depthLimit : Nat := 80

/-- Reads a key with all its parts. -/
def takeKey? (chars : List Char) : Option (List String × List Char) :=
  takeKeyParts? (depthLimit - 1) chars

/-- Reads digits of which single underscores may separate two. The result is the digits alone. -/
def takeDigits? (isDigit : Char → Bool) (chars : List Char) : Option (List Char × List Char) :=
  match chars with
  | [] => none
  | first :: rest =>
    if isDigit first then
      let body := rest.takeWhile fun char => isDigit char || char == '_'
      let after := rest.drop body.length
      let all := first :: body
      let isDoubled := (all.zip body).any fun (a, b) => a == '_' && b == '_'
      if all.getLast? == some '_' || isDoubled then none
      else some (all.filter (· != '_'), after)
    else none

/-- The number that digits spell in a base. -/
def digitsValue (base : Nat) (digits : List Char) : Nat :=
  digits.foldl (fun value digit => base * value + (Bytes.hexValue? digit).getD 0) 0

/-- The digits of the three bases with a mark. -/
def isHexDigit (char : Char) : Bool := (Bytes.hexValue? char).isSome
def isOctalDigit (char : Char) : Bool := '0' ≤ char && char ≤ '7'
def isBinaryDigit (char : Char) : Bool := char == '0' || char == '1'

/-- Takes a sign, if one stands here; the result tells whether it is a minus. -/
def takeSign : List Char → Bool × List Char
  | '-' :: rest => (true, rest)
  | '+' :: rest => (false, rest)
  | chars => (false, chars)

/-- Reads the digits of a decimal number, which may start with a zero only if they are just that. -/
def takeWhole? (chars : List Char) : Option (List Char × List Char) :=
  match chars with
  | '0' :: rest => some (['0'], rest)
  | chars => takeDigits? Char.isDigit chars

/-- The digits after a point, if a point stands here. -/
def takeFraction? : List Char → Option (List Char × List Char)
  | '.' :: rest => takeDigits? Char.isDigit rest
  | chars => some ([], chars)

/-- The sign and the digits of an exponent, if one stands here. -/
def takeExponent? : List Char → Option (Option (Bool × List Char) × List Char)
  | [] => some (none, [])
  | mark :: rest =>
    if mark == 'e' || mark == 'E' then do
      let (minus, rest) := takeSign rest
      let (digits, rest) ← takeDigits? Char.isDigit rest
      some (some (minus, digits), rest)
    else some (none, mark :: rest)

/-- Whether a positive decimal number is too large for a double: it is at least the largest double
and half a unit in its last place. Digits beyond a thousand places are not expanded. -/
def exceedsDouble (digits : List Char) (fraction : Nat) (minus : Bool) (exponent : Nat) : Bool :=
  let significant := digits.dropWhile (· == '0')
  if significant.isEmpty then false
  else
    let scale : Int := (if minus then -(exponent : Int) else exponent) - fraction
    let magnitude : Int := significant.length + scale
    if magnitude > 310 then true
    else if magnitude < 308 then false
    else
      let value := digitsValue 10 significant
      let limit := Nat.pow 2 1024 - Nat.pow 2 970
      if scale ≥ 0 then value * Nat.pow 10 scale.toNat ≥ limit
      else value ≥ limit * Nat.pow 10 (-scale).toNat

/-- A number as a document spells it. -/
inductive Number where
  | integer (value : Int)
  | real (spelling : String)

/-- Integers are signed and have 64 bits: the first number that is too large. -/
def integerBound : Nat := 9223372036854775808

/-- Accepts an integer of sixty-four bits. -/
def boundedInteger? (value : Int) (rest : List Char) : Option (Number × List Char) :=
  if -integerBound ≤ value ∧ value < integerBound then some (.integer value, rest) else none

/-- Reads a decimal number. -/
def takeDecimal? (chars : List Char) : Option (Number × List Char) := do
  let (minus, unsigned) := takeSign chars
  match unsigned with
  | 'i' :: 'n' :: 'f' :: rest => some (.real (if minus then "-inf" else "inf"), rest)
  | 'n' :: 'a' :: 'n' :: rest => some (.real "nan", rest)
  | _ =>
    let (whole, rest) ← takeWhole? unsigned
    let (fraction, afterFraction) ← takeFraction? rest
    let (exponent, after) ← takeExponent? afterFraction
    if fraction.isEmpty && exponent.isNone then
      let value : Int := digitsValue 10 whole
      boundedInteger? (if minus then -value else value) rest
    else
      let (down, power) := exponent.getD (false, [])
      let power := digitsValue 10 power
      if !minus && exceedsDouble (whole ++ fraction) fraction.length down power then none
      else some (.real (String.ofList (chars.take (chars.length - after.length))), after)

/-- Reads a number. -/
def takeNumber? : List Char → Option (Number × List Char)
  | '0' :: 'x' :: rest => do
    let (digits, rest) ← takeDigits? isHexDigit rest
    boundedInteger? (digitsValue 16 digits) rest
  | '0' :: 'o' :: rest => do
    let (digits, rest) ← takeDigits? isOctalDigit rest
    boundedInteger? (digitsValue 8 digits) rest
  | '0' :: 'b' :: rest => do
    let (digits, rest) ← takeDigits? isBinaryDigit rest
    boundedInteger? (digitsValue 2 digits) rest
  | chars => takeDecimal? chars

/-- Reads a number of exactly `count` digits. -/
def takeFixed? (count : Nat) (chars : List Char) : Option (Nat × List Char) :=
  let digits := chars.take count
  if digits.length = count && digits.all Char.isDigit then
    some (digitsValue 10 digits, chars.drop count)
  else none

/-- The number of days of a month. -/
def daysInMonth (year month : Nat) : Nat :=
  if month = 2 then
    if (year % 4 = 0 && year % 100 ≠ 0) || year % 400 = 0 then 29 else 28
  else if month = 4 || month = 6 || month = 9 || month = 11 then 30
  else 31

/-- Reads a date. -/
def takeDate? (chars : List Char) : Option (List Char) := do
  let (year, rest) ← takeFixed? 4 chars
  match rest with
  | '-' :: rest => do
    let (month, rest) ← takeFixed? 2 rest
    match rest with
    | '-' :: rest => do
      let (day, rest) ← takeFixed? 2 rest
      if 1 ≤ month && month ≤ 12 && 1 ≤ day && day ≤ daysInMonth year month then some rest else none
    | _ => none
  | _ => none

/-- Reads an hour and a minute. -/
def takeHourMinute? (chars : List Char) : Option (List Char) := do
  let (hour, rest) ← takeFixed? 2 chars
  match rest with
  | ':' :: rest => do
    let (minute, rest) ← takeFixed? 2 rest
    if hour ≤ 23 && minute ≤ 59 then some rest else none
  | _ => none

/-- Reads a time of day; a leap second is one. -/
def takeTime? (chars : List Char) : Option (List Char) := do
  let rest ← takeHourMinute? chars
  match rest with
  | ':' :: rest => do
    let (second, rest) ← takeFixed? 2 rest
    if second > 60 then none
    else
      match rest with
      | '.' :: digit :: more =>
        if digit.isDigit then some (more.dropWhile Char.isDigit) else some rest
      | _ => some rest
  | _ => none

/-- Reads the distance from Greenwich, if one stands here. -/
def takeOffset? : List Char → Option (List Char)
  | 'Z' :: rest => some rest
  | 'z' :: rest => some rest
  | '+' :: rest => takeHourMinute? rest
  | '-' :: rest => takeHourMinute? rest
  | chars => some chars

/-- Whether two characters and a colon follow, as at the start of a time. -/
def startsTime : List Char → Bool
  | first :: second :: ':' :: _ => first.isDigit && second.isDigit
  | _ => false

/-- Whether the characters start like a date: four digits and a hyphen. -/
def startsDate (chars : List Char) : Bool :=
  (chars.take 4).length = 4 && (chars.take 4).all Char.isDigit && chars[4]? == some '-'

/-- Reads a date, a time, or a date with a time after a letter or one space. -/
def takeMoment? (chars : List Char) : Option (String × List Char) := do
  let rest ←
    if startsDate chars then do
      let rest ← takeDate? chars
      match rest with
      | delimiter :: time =>
        if (delimiter == 'T' || delimiter == 't' || delimiter == ' ') && startsTime time then do
          let rest ← takeTime? time
          takeOffset? rest
        else some rest
      | [] => some []
    else takeTime? chars
  some (String.ofList (chars.take (chars.length - rest.length)), rest)

end Hotload.Toml
