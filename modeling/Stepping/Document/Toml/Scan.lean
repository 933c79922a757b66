import Stepping.Decimal.Nearest
import Stepping.Document.Node

/-!
# Scanning TOML

A scanner takes something from the front of a text and leaves the rest, or finds
nothing that it could take.  This module scans what is not built of values:
blanks and comments, strings, keys and numbers.
-/

namespace Stepping.Document.Toml

/-- Takes a value from the front of a text. -/
abbrev Scan (α : Type) := List Char → Option (α × List Char)

/-- How deep arrays, tables and keys may go is less than this. -/
def depthLimit : Nat := 80

/-! ## Blanks, comments and line ends -/

/-- The text without the blanks at its front. -/
def skipBlanks (text : List Char) : List Char :=
  text.dropWhile fun character => character = ' ' || character = '\t'

/-- Whether a character may stand in comments and, but for quotes, in strings. -/
def isPlain (character : Char) : Bool :=
  character = '\t' || (' ' ≤ character && character ≤ '~') || character.toNat ≥ 0x80

/-- The text without the comment at its front, if there is one. -/
def skipComment : List Char → List Char
  | '#' :: rest => rest.dropWhile isPlain
  | text => text

/-- The text behind the line break at its front. -/
def lineBreak? : List Char → Option (List Char)
  | '\n' :: rest => some rest
  | '\r' :: '\n' :: rest => some rest
  | _ => none

/-- The next line, if nothing but blanks and a comment is left of this one. -/
def lineEnd? (text : List Char) : Option (List Char) :=
  match skipComment (skipBlanks text) with
  | [] => some []
  | rest => lineBreak? rest

/-- The text without blanks, comments and line breaks at its front. -/
def skipLines : (fuel : Nat) → List Char → List Char
  | 0, text => text
  | fuel + 1, text =>
      let rest := skipBlanks text
      match lineBreak? (skipComment rest) with
      | some rest => skipLines fuel rest
      | none => rest

/-- The text without anything that may stand between the items of an array. -/
def skipGap (text : List Char) : List Char :=
  skipLines text.length text

/-! ## Strings -/

/-- The value of a hexadecimal digit. -/
def digitValue (digit : Char) : Nat :=
  if digit.isDigit then digit.toNat - '0'.toNat
  else if 'a' ≤ digit then digit.toNat - 'a'.toNat + 10
  else digit.toNat - 'A'.toNat + 10

/-- Whether a character is a hexadecimal digit. -/
def isHexDigit (digit : Char) : Bool :=
  digit.isDigit || ('a' ≤ digit && digit ≤ 'f') || ('A' ≤ digit && digit ≤ 'F')

/-- The number that digits to a base stand for. -/
def number (base : Nat) (digits : List Char) : Nat :=
  digits.foldl (fun value digit => base * value + digitValue digit) 0

/-- The character whose code point has so many hexadecimal digits. -/
def codePoint? (length : Nat) (text : List Char) : Option (Char × List Char) :=
  let digits := text.take length
  let code := number 16 digits
  if digits.length = length ∧ digits.all isHexDigit ∧ code.isValidChar then
    some (Char.ofNat code, text.drop length)
  else
    none

/-- The character that an escape behind a backslash stands for. -/
def escape? : Scan Char
  | 'b' :: rest => some ('\x08', rest)
  | 't' :: rest => some ('\t', rest)
  | 'n' :: rest => some ('\n', rest)
  | 'f' :: rest => some ('\x0c', rest)
  | 'r' :: rest => some ('\r', rest)
  | '"' :: rest => some ('"', rest)
  | '\\' :: rest => some ('\\', rest)
  | 'u' :: rest => codePoint? 4 rest
  | 'U' :: rest => codePoint? 8 rest
  | _ => none

/-- The characters up to a closing quote, with escapes. -/
def basicCharacters? : (fuel : Nat) → Scan (List Char)
  | _, '"' :: rest => some ([], rest)
  | fuel + 1, '\\' :: rest => do
      let (value, rest) ← escape? rest
      let (values, rest) ← basicCharacters? fuel rest
      return (value :: values, rest)
  | fuel + 1, value :: rest =>
      if isPlain value then
        (basicCharacters? fuel rest).map fun (values, rest) => (value :: values, rest)
      else
        none
  | _, _ => none

/-- The characters up to a closing apostrophe, without escapes. -/
def literalCharacters? (text : List Char) : Option (List Char × List Char) :=
  let isInside := fun character => isPlain character && character != '\''
  match text.dropWhile isInside with
  | '\'' :: rest => some (text.takeWhile isInside, rest)
  | _ => none

/-- A string with either kind of quotes. -/
def string? : Scan String
  | '"' :: rest =>
      (basicCharacters? rest.length rest).map fun (characters, rest) =>
        (String.ofList characters, rest)
  | '\'' :: rest =>
      (literalCharacters? rest).map fun (characters, rest) =>
        (String.ofList characters, rest)
  | _ => none

/-! ## Keys -/

/-- Whether a character may stand in a key without quotes. -/
def isBare (character : Char) : Bool :=
  character.isAlphanum || character = '-' || character = '_'

/-- One part of a key. -/
def keyPart? (text : List Char) : Option (String × List Char) :=
  match string? text with
  | some found => some found
  | none =>
      let characters := text.takeWhile isBare
      if characters.isEmpty then none
      else some (String.ofList characters, text.dropWhile isBare)

/-- The parts of a key, which are separated by points. -/
def keyParts? : (fuel : Nat) → Scan (List String)
  | 0, _ => none
  | fuel + 1, text => do
      let (part, rest) ← keyPart? (skipBlanks text)
      match skipBlanks rest with
      | '.' :: rest =>
          (keyParts? fuel rest).map fun (parts, rest) => (part :: parts, rest)
      | rest => some ([part], rest)

/-- A key with all its parts, fewer than the limit. -/
def key? (text : List Char) : Option (List String × List Char) :=
  keyParts? (depthLimit - 1) text

/-! ## Numbers -/

/-- Digits with single underscores between them; the underscores are left out. -/
def spacedDigits? (isDigit : Char → Bool) : (fuel : Nat) → Scan (List Char)
  | 0, _ => none
  | fuel + 1, digit :: rest =>
      if isDigit digit then
        match rest with
        | '_' :: rest =>
            (spacedDigits? isDigit fuel rest).map fun (digits, rest) =>
              (digit :: digits, rest)
        | next :: _ =>
            if isDigit next then
              (spacedDigits? isDigit fuel rest).map fun (digits, rest) =>
                (digit :: digits, rest)
            else
              some ([digit], rest)
        | [] => some ([digit], [])
      else
        none
  | _, [] => none

/-- Decimal digits that may start with zero. -/
def digits? (text : List Char) : Option (List Char × List Char) :=
  spacedDigits? Char.isDigit text.length text

/-- Whether the sign at the front of a text is negative, and what follows it. -/
def sign : List Char → Bool × List Char
  | '-' :: rest => (true, rest)
  | '+' :: rest => (false, rest)
  | text => (false, text)

/-- Decimal digits that do not start with zero, unless they are a lone zero. -/
def whole? : Scan (List Char)
  | '0' :: rest => some (['0'], rest)
  | text => digits? text

/-- A whole number, if it has no more than 63 bits and a sign. -/
def integerNode? (negative : Bool) (value : Nat) : Option Node :=
  if negative then
    if value ≤ Nat.pow 2 63 then some (.integer (-value)) else none
  else
    if value < Nat.pow 2 63 then some (.integer value) else none

/-- A whole number to another base, behind the mark of the base. -/
def based? (base : Nat) (isDigit : Char → Bool) (text : List Char) :
    Option (Node × List Char) := do
  let (digits, rest) ← spacedDigits? isDigit text.length text
  let node ← integerNode? false (number base digits)
  return (node, rest)

/-- The digits behind a point, if there is one. -/
def fraction? : Scan (Option (List Char))
  | '.' :: rest => (digits? rest).map fun (digits, rest) => (some digits, rest)
  | text => some (none, text)

/-- The power of ten behind the digits, if there is one. -/
def power? : Scan (Option Int)
  | 'e' :: rest | 'E' :: rest => do
      let (negative, rest) := sign rest
      let (digits, rest) ← digits? rest
      let size : Int := number 10 digits
      return (some (if negative then -size else size), rest)
  | text => some (none, text)

/-- A decimal number with or without a point and a power; none may be infinite above. -/
def decimal? (negative : Bool) (text : List Char) : Option (Node × List Char) := do
  let (whole, rest) ← whole? text
  let (fraction, rest) ← fraction? rest
  let (power, rest) ← power? rest
  match fraction, power with
  | none, none =>
      let node ← integerNode? negative (number 10 whole)
      return (node, rest)
  | _, _ =>
      let digits := fraction.getD []
      let value := Decimal.nearestSigned negative
        ⟨number 10 (whole ++ digits), power.getD 0 - digits.length⟩
      if value.isInf && !negative then none else some (.real value, rest)

/-- A number of any kind. -/
def number? (text : List Char) : Option (Node × List Char) :=
  match text with
  | '0' :: 'x' :: rest => based? 16 isHexDigit rest
  | '0' :: 'o' :: rest => based? 8 (fun digit => '0' ≤ digit && digit ≤ '7') rest
  | '0' :: 'b' :: rest => based? 2 (fun digit => digit = '0' || digit = '1') rest
  | _ =>
      let (negative, rest) := sign text
      match rest with
      | 'i' :: 'n' :: 'f' :: rest =>
          some (.real (if negative then -1.0 / 0.0 else 1.0 / 0.0), rest)
      | 'n' :: 'a' :: 'n' :: rest => some (.real (0.0 / 0.0), rest)
      | _ => decimal? negative rest

end Stepping.Document.Toml
