import Stepping.Document.Json.Tree
import Stepping.Document.Record
import Stepping.Document.Toml.Tree

/-!
# Formats of documents

Schedules, systems and run files are read from JSON and from TOML.  JSON is
looked at only as far as it is needed: what comes first in the text, a misfit or
a fault of the text itself, is why it is refused, and what follows the value is
looked at last.  TOML is read as a whole before anything is made of it.
-/

namespace Stepping.Document

/-- A language that documents are written in. -/
inductive Format where
  | json
  | toml
deriving DecidableEq, Repr

namespace Format

/-- How messages about JSON write doubles: with an exponent below 1e-5 and from 1e16 on. -/
def jsonStyle : Decimal.Style where
  tie := .even
  marksWhole := true
  positional := some (-5, 15)

/-- How messages about TOML write doubles: always without an exponent. -/
def tomlStyle : Decimal.Style where
  tie := .up
  marksWhole := true
  positional := none

/-- What is particular to documents of the format. -/
def dialect : Format → Dialect
  | .json => ⟨jsonStyle, true⟩
  | .toml => ⟨tomlStyle, false⟩

/-- The tree of a text. -/
def tree : Format → String → Tree
  | .json => Json.read
  | .toml => Toml.read

/-- Read a value from a text. -/
def read {α : Type} (format : Format) (reader : Dialect → Node → Reading α)
    (text : String) : Reading α := do
  let tree := format.tree text
  let value ← reader format.dialect tree.root
  if tree.trailing then Reading.malformed else .ok value

end Format

end Stepping.Document
