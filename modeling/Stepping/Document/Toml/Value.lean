import Stepping.Document.Toml.Layout
import Stepping.Document.Toml.Scan

/-!
# Values of TOML

A value is a string, a truth value, a number, an array in brackets, which may go
over several lines, or a table in braces, which may not.
-/

namespace Stepping.Document.Toml

/-- A value that holds no other values. -/
def scalar? (text : List Char) : Option (Node × List Char) :=
  match text with
  | 't' :: 'r' :: 'u' :: 'e' :: rest => some (.flag true, rest)
  | 'f' :: 'a' :: 'l' :: 's' :: 'e' :: rest => some (.flag false, rest)
  | '"' :: _ | '\'' :: _ =>
      (string? text).map fun (value, rest) => (.text (some value), rest)
  | _ => number? text

/-- The items of an array whose bracket has been opened, up to its end. -/
def items? (item? : Scan Node) : (fuel : Nat) → Scan (List Node)
  | 0, _ => none
  | fuel + 1, text =>
      match skipGap text with
      | ']' :: rest => some ([], rest)
      | text => do
          let (item, rest) ← item? text
          match skipGap rest with
          | ',' :: rest =>
              (items? item? fuel rest).map fun (items, rest) => (item :: items, rest)
          | ']' :: rest => some ([item], rest)
          | _ => none

/-- A key, an equals sign and a value. -/
def assignment? (value? : Scan Node) (text : List Char) :
    Option ((List String × Node) × List Char) := do
  let (key, rest) ← key? text
  match rest with
  | '=' :: rest => do
      let (value, rest) ← value? (skipBlanks rest)
      return ((key, value), rest)
  | _ => none

/-- The assignments of a table in braces, of which there is at least one, up to its end. -/
def assignments? (value? : Scan Node) :
    (fuel : Nat) → Scan (List (List String × Node))
  | 0, _ => none
  | fuel + 1, text => do
      let (assignment, rest) ← assignment? value? text
      match skipBlanks rest with
      | ',' :: rest =>
          (assignments? value? fuel rest).map fun (assignments, rest) =>
            (assignment :: assignments, rest)
      | '}' :: rest => some ([assignment], rest)
      | _ => none

/-- The table that assignments fill, if they do not contradict one another. -/
def tableOf? (assignments : List (List String × Node)) : Option Node := do
  let entries ← assignments.foldlM
    (fun entries (key, value) => assign key value .opened entries) []
  return .table (fieldNodes entries) true

/-- A value in which arrays and tables are nested no deeper than so many levels. -/
def value? : (depth : Nat) → Scan Node
  | depth + 1, '[' :: rest =>
      (items? (value? depth) rest.length rest).map fun (items, rest) =>
        (.array items true, rest)
  | depth + 1, '{' :: rest =>
      match skipBlanks rest with
      | '}' :: rest => some (.table [] true, rest)
      | text => do
          let (assignments, rest) ← assignments? (value? depth) text.length text
          let table ← tableOf? assignments
          return (table, rest)
  | _, text => scalar? text

end Stepping.Document.Toml
