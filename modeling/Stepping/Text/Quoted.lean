import Stepping.Text.Visible

/-!
# Quoted text

Text that is shown inside a message stands in quotes.  A quote and a backslash
in it are marked by a backslash, a line break and its like have letters, and
any other character that is not visible is given by its code point.
-/

namespace Stepping.Text

/-- The digits of a code point between braces. -/
def codePoint (character : Char) : List Char :=
  ['\\', 'u', '{'] ++ Nat.toDigits 16 character.toNat ++ ['}']

/-- How a character is shown in quotes. -/
def shown (character : Char) : List Char :=
  match character with
  | '\x00' => ['\\', '0']
  | '\t' => ['\\', 't']
  | '\r' => ['\\', 'r']
  | '\n' => ['\\', 'n']
  | '"' => ['\\', '"']
  | '\\' => ['\\', '\\']
  | _ => if isVisible character then [character] else codePoint character

/-- Text in quotes. -/
def quoted (text : String) : String :=
  String.ofList ('"' :: text.toList.flatMap shown ++ ['"'])

end Stepping.Text
