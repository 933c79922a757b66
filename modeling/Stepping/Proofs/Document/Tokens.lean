import Stepping.Document.Json.Token
import Stepping.Document.Json.Written
import Mathlib.Tactic.SplitIfs

/-!
# Reading tokens that were written

A mark, a key and a count are each found again in the text where they were
written, and the text behind them is cut into tokens by itself.  For a count
this is so only if no digit, point or power follows it; a decimal number that
was written has no needless zero in front, so all of its digits are taken.
-/

namespace Stepping.Document.Json

/-- A token that a text starts with comes first, then those of what follows it. -/
theorem tokens_of_token?
    {first : Char} {text rest : List Char} {token : Token}
    (dense : isBlank first = false)
    (found : token? first text = some (token, rest)) :
    tokens (first :: text) = token :: tokens rest := by
  rw [tokens, dense, if_neg Bool.false_ne_true]
  split
  next none => cases none.symm.trans found
  next other after known =>
    cases known.symm.trans found
    rfl

/-- A mark of one character stands for itself, whatever follows it. -/
theorem tokens_mark
    {mark : Char} {token : Token} (known : mark? mark = some token)
    (rest : List Char) :
    tokens (mark :: rest) = token :: tokens rest := by
  have dense : isBlank mark = false := by
    unfold mark? at known
    split at known <;> first | rfl | cases known
  apply tokens_of_token? dense
  rw [token?, known]

/-! ## Keys -/

/-- Whether a character stands for itself in a string. -/
def isPlain (letter : Char) : Bool :=
  letter ≠ '"' && letter ≠ '\\' && 0x20 ≤ letter.toNat

/-- A string of plain characters ends at the first quote behind them. -/
theorem pieces?_of_plain
    {letters : List Char} (plain : letters.all isPlain) (rest : List Char) :
    pieces? (letters ++ '"' :: rest) =
      some (letters.map Piece.char, rest) := by
  induction letters with
  | nil => rw [List.nil_append, pieces?]; rfl
  | cons letter letters induction =>
      rw [List.all_cons, Bool.and_eq_true] at plain
      have others := induction plain.2
      simp only [isPlain, Bool.and_eq_true, decide_eq_true_eq] at plain
      rcases plain.1 with ⟨⟨noQuote, noSlash⟩, printed⟩
      rw [List.cons_append, pieces?, if_neg (Nat.not_lt_of_le printed), others]
      · rfl
      · simpa using noQuote
      · simp [noSlash]
      · simp [noSlash]

theorem characters?_map_char (letters : List Char) :
    characters? (letters.map Piece.char) = some letters := by
  induction letters with
  | nil => rfl
  | cons letter letters induction =>
      rw [List.map_cons, characters?, induction]
      rfl

/-- A key of plain characters is found again between its quotes. -/
theorem tokens_key
    {key : String} (plain : key.toList.all isPlain) (rest : List Char) :
    tokens ('"' :: (key.toList ++ '"' :: rest)) =
      .text (some key) :: tokens rest := by
  apply tokens_of_token? rfl
  show (pieces? (key.toList ++ '"' :: rest)).map _ = _
  rw [pieces?_of_plain plain, Option.map_some]
  dsimp only
  rw [characters?_map_char, Option.map_some, String.ofList_toList]

/-! ## Counts -/

/-- A positive number is not written with a zero in front. -/
theorem head?_toDigits_ne_zero {number : Nat} (positive : 0 < number) :
    (Nat.toDigits 10 number).head? ≠ some '0' := by
  induction number using Nat.strongRecOn with
  | ind number induction =>
      rw [Nat.toDigits_eq_if (by decide)]
      split_ifs with single
      · have few :
            ∀ digit < 10, 0 < digit → [Nat.digitChar digit].head? ≠ some '0' := by
          decide
        exact few number single positive
      · have front := induction (number / 10) (by omega) (by omega)
        rcases List.exists_cons_of_ne_nil
            (Nat.toDigits_ne_nil (n := number / 10) (b := 10)) with
          ⟨first, others, shape⟩
        rw [shape] at front ⊢
        exact front

theorem isDigit_of_mem_written
    {count : Count} {digit : Char} (listed : digit ∈ written count) :
    digit.isDigit :=
  Nat.isDigit_of_mem_toDigits (by decide) (by decide) listed

theorem written_ne_nil (count : Count) : written count ≠ [] :=
  Nat.toDigits_ne_nil

/-- A written count is a lone zero, or it does not start with one. -/
theorem written_normal (count : Count) :
    ¬((written count).head? = some '0' ∧ 1 < (written count).length) := by
  rintro ⟨zero, long⟩
  rcases Nat.eq_zero_or_pos count.toNat with none | positive
  · rw [written, none] at long
    exact Nat.lt_irrefl 1 long
  · exact head?_toDigits_ne_zero positive zero

/-- Whether a number ends in front of a character. -/
def endsNumber (character : Char) : Bool :=
  !character.isDigit && character ≠ '.' && character ≠ 'e' && character ≠ 'E'

theorem digits_written
    {mark : Char} (ends : endsNumber mark) (count : Count) (rest : List Char) :
    digits (written count ++ mark :: rest) = (written count, mark :: rest) := by
  have all : ∀ digit ∈ written count, digit.isDigit :=
    fun digit => isDigit_of_mem_written
  have stop : ¬mark.isDigit := by
    simp only [endsNumber, Bool.and_eq_true, Bool.not_eq_true'] at ends
    simp [ends]
  rw [digits, List.takeWhile_append_of_pos all, List.dropWhile_append_of_pos all,
    List.takeWhile_cons_of_neg stop, List.dropWhile_cons_of_neg stop,
    List.append_nil]

/-- All digits of a written count are read, and they make the count. -/
theorem unsigned?_written
    {mark : Char} (ends : endsNumber mark) (count : Count) (rest : List Char) :
    unsigned? false (written count ++ mark :: rest) =
      some (.integer count.toNat, mark :: rest) := by
  have whole :
      whole? (written count ++ mark :: rest) =
        some (written count, mark :: rest) := by
    rw [whole?, digits?, digits_written ends,
      if_neg (by simpa using written_ne_nil count)]
    exact if_neg (written_normal count)
  simp only [endsNumber, Bool.and_eq_true, decide_eq_true_eq] at ends
  rcases ends with ⟨⟨⟨-, noPoint⟩, noPower⟩, noCapital⟩
  have fraction : fraction? (mark :: rest) = some (none, mark :: rest) := by
    rw [fraction?]
    simpa using noPoint
  have power : power? (mark :: rest) = some (none, mark :: rest) := by
    rw [power?]
    · simpa using noPower
    · simpa using noCapital
  have node : numberNode false (written count) none none = .integer count.toNat := by
    rw [numberNode, wholeNode, written,
      Nat.ofDigitChars_toDigits (by decide) (by decide)]
    exact if_pos count.toNat_lt_limit
  rw [unsigned?, whole]
  show (fraction? (mark :: rest)).bind _ = _
  rw [fraction]
  show (power? (mark :: rest)).bind _ = _
  rw [power]
  show some (numberNode false (written count) none none, _) = _
  rw [node]

/-- A digit is no blank, no mark, no quote and no sign. -/
theorem token?_digit
    {digit : Char} (decimal : digit.isDigit) (rest : List Char) :
    isBlank digit = false ∧
      token? digit rest =
        (unsigned? false (digit :: rest)).map fun (number, rest) =>
          (.leaf number, rest) := by
  have apart : ∀ other : Char, other.isDigit = false → digit ≠ other := by
    rintro _ plain rfl
    cases plain.symm.trans decimal
  constructor
  · simp [isBlank, apart]
  · have mark : mark? digit = none := by
      rw [mark?] <;> exact apart _ rfl
    rw [token?, mark]
    dsimp only
    rw [if_neg (apart _ rfl), if_neg (apart _ rfl), if_pos decimal]

/-- A written count is found again in front of what ends a number. -/
theorem tokens_written
    {mark : Char} (ends : endsNumber mark) (count : Count) (rest : List Char) :
    tokens (written count ++ mark :: rest) =
      .leaf (.integer count.toNat) :: tokens (mark :: rest) := by
  have read := unsigned?_written ends count rest
  rcases List.exists_cons_of_ne_nil (written_ne_nil count) with
    ⟨digit, others, shape⟩
  have decimal : digit.isDigit :=
    isDigit_of_mem_written (shape ▸ List.mem_cons_self)
  rw [shape, List.cons_append] at read ⊢
  rcases token?_digit decimal (others ++ mark :: rest) with ⟨dense, same⟩
  apply tokens_of_token? dense
  rw [same, read]
  rfl

end Stepping.Document.Json
