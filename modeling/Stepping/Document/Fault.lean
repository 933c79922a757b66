import Stepping.Decimal.Style
import Stepping.Document.Node
import Stepping.Schedule
import Stepping.Text.Quoted

/-!
# Faults of documents

A document is refused because its text is not well formed, or because what it
says does not fit what is wanted.  A misfit tells what was found and what was
wanted in its place.
-/

namespace Stepping.Document

/-- What was found where something else was wanted. -/
inductive Found where
  | null
  | flag (value : Bool)
  | integer (value : Int)
  | real (value : Float)
  | text (value : String)
  | array
  | table

/-- How what a document says fails to fit. -/
inductive Misfit where
  | missingField (name : String)
  | duplicateField (name : String)
  | wrongType (found : Found) (wanted : String)
  | wrongValue (value : Int) (wanted : String)
  /-- A record that is given by the list of its fields lacks some of them. -/
  | wrongLength (length : Nat) (record : String) (fields : Nat)
  | schedule (defect : Schedule.Defect)

/-- Why a document is refused. -/
inductive Fault where
  | malformed
  | misfit (cause : Misfit)

/-- What was found, in words; a style says how doubles are written. -/
def Found.describe (style : Decimal.Style) : Found → String
  | .null => "null"
  | .flag value => "boolean \x60" ++ toString value ++ "\x60"
  | .integer value => "integer \x60" ++ toString value ++ "\x60"
  | .real value => "floating point \x60" ++ style.render value ++ "\x60"
  | .text value => "string " ++ Text.quoted value
  | .array => "sequence"
  | .table => "map"

/-- The misfit in words; a style says how doubles are written. -/
def Misfit.message (style : Decimal.Style) : Misfit → String
  | .missingField name => "missing field \x60" ++ name ++ "\x60"
  | .duplicateField name => "duplicate field \x60" ++ name ++ "\x60"
  | .wrongType found wanted =>
      "invalid type: " ++ found.describe style ++ ", expected " ++ wanted
  | .wrongValue value wanted =>
      "invalid value: integer \x60" ++ toString value ++ "\x60, expected " ++ wanted
  | .wrongLength length record fields =>
      s!"invalid length {length}, expected struct {record} with {fields} elements"
  | .schedule defect => defect.message

end Stepping.Document
