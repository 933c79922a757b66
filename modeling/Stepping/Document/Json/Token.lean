import Stepping.Decimal.Nearest
import Stepping.Document.Node

/-!
# Tokens of JSON

A JSON text is cut into tokens as far as this is possible; where it is not, the
last token is `fault`.  Whole numbers that fit in a word, with or without a
sign, are kept as such; all other numbers are read as doubles.
-/

namespace Stepping.Document.Json

/-- A piece of a JSON text. -/
inductive Token where
  | openArray
  | closeArray
  | openTable
  | closeTable
  | comma
  | colon
  /-- A string, unless it has a part that stands for no character. -/
  | text (value : Option String)
  | leaf (value : Node)
  /-- The place where no token could be read. -/
  | fault

/-! ## Strings -/

/-- A piece of a string: a character, or a 16-bit unit that was given by its number. -/
inductive Piece where
  | char (value : Char)
  | unit (value : Nat)

/-- The value of a hexadecimal digit. -/
def hexDigit? (digit : Char) : Option Nat :=
  if '0' ≤ digit ∧ digit ≤ '9' then some (digit.toNat - '0'.toNat)
  else if 'a' ≤ digit ∧ digit ≤ 'f' then some (digit.toNat - 'a'.toNat + 10)
  else if 'A' ≤ digit ∧ digit ≤ 'F' then some (digit.toNat - 'A'.toNat + 10)
  else none

/-- The value of hexadecimal digits. -/
def hexNumber? (digits : List Char) : Option Nat :=
  digits.foldlM (fun value digit => (hexDigit? digit).map (16 * value + ·)) 0

/-- The character that a backslash and a letter stand for. -/
def escaped? : Char → Option Char
  | '"' => some '"'
  | '\\' => some '\\'
  | '/' => some '/'
  | 'b' => some '\x08'
  | 'f' => some '\x0c'
  | 'n' => some '\n'
  | 'r' => some '\r'
  | 't' => some '\t'
  | _ => none

/-- The pieces of a string whose opening quote has been read, and what follows its end. -/
def pieces? : List Char → Option (List Piece × List Char)
  | '"' :: rest => some ([], rest)
  | '\\' :: 'u' :: first :: second :: third :: fourth :: rest => do
      let unit ← hexNumber? [first, second, third, fourth]
      let (pieces, rest) ← pieces? rest
      return (.unit unit :: pieces, rest)
  | '\\' :: letter :: rest => do
      let value ← escaped? letter
      let (pieces, rest) ← pieces? rest
      return (.char value :: pieces, rest)
  | value :: rest =>
      if value.toNat < 0x20 then none
      else (pieces? rest).map fun (pieces, rest) => (.char value :: pieces, rest)
  | [] => none

/-- Whether a unit is the first half of a pair. -/
def isLeading (unit : Nat) : Bool :=
  0xD800 ≤ unit && unit < 0xDC00

/-- Whether a unit is the second half of a pair. -/
def isTrailing (unit : Nat) : Bool :=
  0xDC00 ≤ unit && unit < 0xE000

/-- The characters of a string.  Two units that form a pair are one character. -/
def characters? : List Piece → Option (List Char)
  | [] => some []
  | .char value :: pieces => (characters? pieces).map (value :: ·)
  | .unit leading :: .unit trailing :: pieces =>
      if isLeading leading then
        if isTrailing trailing then
          let code := 0x10000 + (leading - 0xD800) * 0x400 + (trailing - 0xDC00)
          (characters? pieces).map (Char.ofNat code :: ·)
        else none
      else if isTrailing leading then none
      else (characters? (.unit trailing :: pieces)).map (Char.ofNat leading :: ·)
  | .unit unit :: pieces =>
      if isLeading unit || isTrailing unit then none
      else (characters? pieces).map (Char.ofNat unit :: ·)

/-! ## Numbers -/

/-- The digits that a text starts with, and what follows them. -/
def digits (text : List Char) : List Char × List Char :=
  (text.takeWhile Char.isDigit, text.dropWhile Char.isDigit)

/-- The digits that a text starts with, if there are any, and what follows them. -/
def digits? (text : List Char) : Option (List Char × List Char) :=
  if (digits text).1.isEmpty then none else some (digits text)

/-- The digits before the point: a lone zero, or digits that do not start with zero. -/
def whole? (text : List Char) : Option (List Char × List Char) := do
  let (found, rest) ← digits? text
  if found.head? = some '0' ∧ found.length > 1 then none else some (found, rest)

/-- The digits behind the point, if there is one. -/
def fraction? : List Char → Option (Option (List Char) × List Char)
  | '.' :: rest => (digits? rest).map fun (found, rest) => (some found, rest)
  | text => some (none, text)

/-- The sign of a power of ten: whether it is negative. -/
def powerSign : List Char → Bool × List Char
  | '-' :: rest => (true, rest)
  | '+' :: rest => (false, rest)
  | text => (false, text)

/-- The power of ten behind the digits, if there is one. -/
def power? : List Char → Option (Option Int × List Char)
  | 'e' :: rest | 'E' :: rest => do
      let (negative, rest) := powerSign rest
      let (found, rest) ← digits? rest
      let size : Int := Nat.ofDigitChars 10 found 0
      return (some (if negative then -size else size), rest)
  | text => some (none, text)

/-- How many digits of a number are looked at. -/
def digitLimit : Nat := 768

/--
The number of digits that count a power of ten.  A single one stands for all
digits past the limit, whatever they are, so a number with more digits is never
taken to be half-way between two doubles.
-/
def significant (digits : List Char) (exponent : Int) : Decimal.Digits :=
  let digits := digits.dropWhile (· = '0')
  if digits.length > digitLimit then
    ⟨Nat.ofDigitChars 10 (digits.take digitLimit ++ ['1']) 0,
      exponent + (digits.length - digitLimit - 1 : Nat)⟩
  else
    ⟨Nat.ofDigitChars 10 digits 0, exponent⟩

/-- The node of a double, which must not be infinite. -/
def realNode (negative : Bool) (number : Decimal.Digits) : Node :=
  let value := Decimal.nearestSigned negative number
  if value.isInf then .oversize else .real value

/-- The node of digits without a point and a power. -/
def wholeNode (negative : Bool) (digits : List Char) : Node :=
  let value := Nat.ofDigitChars 10 digits 0
  if negative then
    if 0 < value ∧ value ≤ Nat.pow 2 63 then .integer (-value)
    else realNode true (significant digits 0)
  else
    if value < Nat.pow 2 64 then .integer value else realNode false (significant digits 0)

/-- The digits behind a point without the zeros at their end. -/
def trimmed (fraction : List Char) : List Char :=
  (fraction.reverse.dropWhile (· = '0')).reverse

/-- The node of a number with its sign, digits and power. -/
def numberNode (negative : Bool) (whole : List Char)
    (fraction : Option (List Char)) (power : Option Int) : Node :=
  match fraction, power with
  | none, none => wholeNode negative whole
  | _, _ =>
      let fraction := trimmed (fraction.getD [])
      realNode negative (significant (whole ++ fraction) (power.getD 0 - fraction.length))

/-- The number without a sign that a text starts with, and what follows it. -/
def unsigned? (negative : Bool) (text : List Char) : Option (Node × List Char) := do
  let (whole, rest) ← whole? text
  let (fraction, rest) ← fraction? rest
  let (power, rest) ← power? rest
  return (numberNode negative whole fraction power, rest)

/-! ## Tokens -/

/-- The literal that a text starts with, and what follows it. -/
def literal? : List Char → Option (Node × List Char)
  | 'n' :: 'u' :: 'l' :: 'l' :: rest => some (.null, rest)
  | 't' :: 'r' :: 'u' :: 'e' :: rest => some (.flag true, rest)
  | 'f' :: 'a' :: 'l' :: 's' :: 'e' :: rest => some (.flag false, rest)
  | _ => none

/-- Whether a character may stand between tokens. -/
def isBlank (character : Char) : Bool :=
  character = ' ' || character = '\n' || character = '\t' || character = '\r'

/-- The token that a mark of one character is. -/
def mark? : Char → Option Token
  | '[' => some .openArray
  | ']' => some .closeArray
  | '{' => some .openTable
  | '}' => some .closeTable
  | ',' => some .comma
  | ':' => some .colon
  | _ => none

/-- The token that a text without leading blanks starts with, and what follows it. -/
def token? (first : Char) (rest : List Char) : Option (Token × List Char) :=
  match mark? first with
  | some mark => some (mark, rest)
  | none =>
      if first = '"' then
        (pieces? rest).map fun (pieces, rest) =>
          (.text ((characters? pieces).map String.ofList), rest)
      else if first = '-' then
        (unsigned? true rest).map fun (number, rest) => (.leaf number, rest)
      else if first.isDigit then
        (unsigned? false (first :: rest)).map fun (number, rest) => (.leaf number, rest)
      else
        (literal? (first :: rest)).map fun (literal, rest) => (.leaf literal, rest)

/-! ## Every token takes characters -/

theorem length_lt_of_pieces? {text rest : List Char} {pieces : List Piece}
    (found : pieces? text = some (pieces, rest)) : rest.length < text.length := by
  fun_induction pieces? text generalizing pieces rest with
  | case1 => simp_all
  | case2 first second third fourth tail ih =>
      simp only [Option.bind_eq_bind, Option.bind_eq_some_iff, Option.pure_def,
        Option.some.injEq, Prod.mk.injEq] at found
      obtain ⟨_, _, ⟨further, after⟩, inner, _, rfl⟩ := found
      have := ih inner
      simp only [List.length_cons]
      omega
  | case3 letter tail _ ih =>
      simp only [Option.bind_eq_bind, Option.bind_eq_some_iff, Option.pure_def,
        Option.some.injEq, Prod.mk.injEq] at found
      obtain ⟨_, _, ⟨further, after⟩, inner, _, rfl⟩ := found
      have := ih inner
      simp only [List.length_cons]
      omega
  | case4 => simp at found
  | case5 value tail _ _ _ _ ih =>
      simp only [Option.map_eq_some_iff, Prod.mk.injEq] at found
      obtain ⟨⟨further, after⟩, inner, _, rfl⟩ := found
      have := ih inner
      simp only [List.length_cons]
      omega
  | case6 => simp at found

theorem length_lt_of_digits? {text rest found : List Char}
    (equality : digits? text = some (found, rest)) : rest.length < text.length := by
  have split : (digits text).1 ++ (digits text).2 = text :=
    List.takeWhile_append_dropWhile
  have lengths := congrArg List.length split
  unfold digits? at equality
  split at equality
  · simp at equality
  · rename_i nonempty
    have : 0 < (digits text).1.length := by
      cases shape : (digits text).1 <;> simp_all
    have : (digits text).2 = rest := by simp_all
    simp only [List.length_append] at lengths
    subst rest
    omega

theorem length_lt_of_whole? {text rest found : List Char}
    (equality : whole? text = some (found, rest)) : rest.length < text.length := by
  simp only [whole?, Option.bind_eq_bind, Option.bind_eq_some_iff] at equality
  obtain ⟨⟨digits, after⟩, inner, equality⟩ := equality
  have := length_lt_of_digits? inner
  split at equality <;> simp_all

theorem length_le_of_fraction? {text rest : List Char} {found : Option (List Char)}
    (equality : fraction? text = some (found, rest)) : rest.length ≤ text.length := by
  unfold fraction? at equality
  split at equality
  · simp only [Option.map_eq_some_iff, Prod.mk.injEq] at equality
    obtain ⟨⟨digits, after⟩, inner, _, rfl⟩ := equality
    have := length_lt_of_digits? inner
    simp only [List.length_cons]
    omega
  · simp_all

theorem length_powerSign_le (text : List Char) :
    (powerSign text).2.length ≤ text.length := by
  unfold powerSign
  split <;> simp

theorem length_le_of_power? {text rest : List Char} {found : Option Int}
    (equality : power? text = some (found, rest)) : rest.length ≤ text.length := by
  unfold power? at equality
  split at equality
  iterate 2
    · rename_i tail
      simp only [Option.bind_eq_bind, Option.bind_eq_some_iff, Option.pure_def,
        Option.some.injEq, Prod.mk.injEq] at equality
      obtain ⟨⟨digits, after⟩, inner, _, rfl⟩ := equality
      have := length_lt_of_digits? inner
      have := length_powerSign_le tail
      simp only [List.length_cons]
      omega
  · simp_all

theorem length_lt_of_unsigned? {negative : Bool} {text rest : List Char} {node : Node}
    (equality : unsigned? negative text = some (node, rest)) :
    rest.length < text.length := by
  simp only [unsigned?, Option.bind_eq_bind, Option.bind_eq_some_iff, Option.pure_def,
    Option.some.injEq, Prod.mk.injEq] at equality
  obtain ⟨⟨_, first⟩, whole, ⟨_, second⟩, fraction, ⟨_, third⟩, power, _, rfl⟩ := equality
  have := length_lt_of_whole? whole
  have := length_le_of_fraction? fraction
  have := length_le_of_power? power
  simp only at *
  omega

theorem length_lt_of_literal? {text rest : List Char} {node : Node}
    (equality : literal? text = some (node, rest)) : rest.length < text.length := by
  unfold literal? at equality
  split at equality <;> simp_all <;> omega

theorem length_le_of_token? {first : Char} {text rest : List Char} {token : Token}
    (equality : token? first text = some (token, rest)) :
    rest.length ≤ text.length := by
  unfold token? at equality
  split at equality
  · simp_all
  · split at equality
    · simp only [Option.map_eq_some_iff, Prod.mk.injEq] at equality
      obtain ⟨⟨_, after⟩, inner, _, rfl⟩ := equality
      exact Nat.le_of_lt (length_lt_of_pieces? inner)
    · split at equality
      · simp only [Option.map_eq_some_iff, Prod.mk.injEq] at equality
        obtain ⟨⟨_, after⟩, inner, _, rfl⟩ := equality
        exact Nat.le_of_lt (length_lt_of_unsigned? inner)
      · split at equality <;>
        · simp only [Option.map_eq_some_iff, Prod.mk.injEq] at equality
          obtain ⟨⟨_, after⟩, inner, _, rfl⟩ := equality
          first
            | exact Nat.le_of_lt_succ (length_lt_of_unsigned? inner)
            | exact Nat.le_of_lt_succ (length_lt_of_literal? inner)

/-- Cut a text into tokens, up to the first place where there is none. -/
def tokens : List Char → List Token
  | [] => []
  | first :: rest =>
      if isBlank first then
        tokens rest
      else
        match _found : token? first rest with
        | none => [.fault]
        | some (token, rest) => token :: tokens rest
termination_by text => text.length
decreasing_by
  · simp
  · have := length_le_of_token? _found
    simp only [List.length_cons]
    omega

end Stepping.Document.Json
