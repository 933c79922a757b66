import Stepping.Document.Toml.Value

/-!
# Trees of TOML

A TOML text is a sequence of lines, each of which opens a table or an array of
tables, or gives a value to a key.  A text of which any line cannot be read, or
contradicts the lines before it, is refused as a whole.
-/

namespace Stepping.Document.Toml

/-! ## Lines -/

/-- What a line does. -/
inductive Line where
  | table (path : List String)
  | row (path : List String)
  | assign (key : List String) (value : Node)

/-- A line that is neither blank nor a comment. -/
def line? (text : List Char) : Option (Line × List Char) :=
  match text with
  | '[' :: '[' :: rest => do
      let (path, rest) ← key? rest
      match rest with
      | ']' :: ']' :: rest => some (.row path, rest)
      | _ => none
  | '[' :: rest => do
      let (path, rest) ← key? rest
      match rest with
      | ']' :: rest => some (.table path, rest)
      | _ => none
  | _ =>
      (assignment? (value? (depthLimit - 1)) text).map fun ((key, value), rest) =>
        (.assign key value, rest)

/-- All lines of a text. -/
def lines? : (fuel : Nat) → List Char → Option (List Line)
  | 0, text => if text.isEmpty then some [] else none
  | fuel + 1, text =>
      match skipGap text with
      | [] => some []
      | '#' :: rest => if (rest.dropWhile isPlain).isEmpty then some [] else none
      | text => do
          let (line, rest) ← line? text
          let rest ← lineEnd? rest
          let lines ← lines? fuel rest
          return line :: lines

/-! ## Texts -/

/-- The entries of a text, and the path of the table that is being filled. -/
structure Filling where
  entries : Entries
  path : List String

/-- What a line adds. -/
def Filling.add (filling : Filling) : Line → Option Filling
  | .table path =>
      (openTable path filling.entries).map fun entries => ⟨entries, path⟩
  | .row path =>
      (openRow path filling.entries).map fun entries => ⟨entries, path⟩
  | .assign key value =>
      (alter .implied (assign key value) filling.path .opened filling.entries).map
        fun entries => ⟨entries, filling.path⟩

/-- The tree of a TOML text; nothing can be read of a text with a fault. -/
def read (text : String) : Tree :=
  let characters :=
    match text.toList with
    | '\uFEFF' :: rest => rest
    | characters => characters
  let root := do
    let lines ← lines? (characters.length + 1) characters
    let filling ← lines.foldlM Filling.add ⟨[], []⟩
    return Node.table (fieldNodes filling.entries) true
  ⟨root.getD .broken, false⟩

end Stepping.Document.Toml
