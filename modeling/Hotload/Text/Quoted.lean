import Hotload.Text.Invisible

/-!
# Quoted text

Debug output and some error messages show a text between double quotes. A quote, a backslash and the
usual control characters get a short escape, a character without a shape of its own is written by
its number, and everything else stands for itself.
-/

namespace Hotload.Text

/-- The hexadecimal digits of a number without leading zeros, before `tail`. The fuel bounds the
number of digits. -/
def hexDigitsOnto : Nat → Nat → List Char → List Char
  | 0, _, tail => tail
  | fuel + 1, value, tail =>
    let digits := Bytes.hexDigit (value % 16) :: tail
    if value < 16 then digits else hexDigitsOnto fuel (value / 16) digits

/-- The spelling of one character inside quotes. -/
def quotedChar (char : Char) : List Char :=
  match char with
  | '\x00' => ['\\', '0']
  | '\t' => ['\\', 't']
  | '\n' => ['\\', 'n']
  | '\r' => ['\\', 'r']
  | '"' => ['\\', '"']
  | '\\' => ['\\', '\\']
  | _ =>
    if Invisible.isInvisible char then
      ['\\', 'u', '\x7b'] ++ hexDigitsOnto 8 char.toNat ['\x7d']
    else [char]

/-- A text between double quotes, with every character escaped that would be ambiguous there. -/
def quoted (text : String) : String :=
  String.ofList ('"' :: (text.toList.flatMap quotedChar ++ ['"']))

end Hotload.Text
