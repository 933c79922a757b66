import Stepping.Document.Fault

/-!
# Reading values from documents

A reader makes a value of a node, or tells why it cannot.  Readers go through a
document in the order of its text, so of several faults the first one counts,
and what could not be read of the text counts where it stands.

A record may be given as a table, whose fields may come in any order and among
others that are ignored, or as an array of its fields in their order.
-/

namespace Stepping.Document

/-- What differs between the languages that documents are written in. -/
structure Dialect where
  style : Decimal.Style
  /-- Whether an array with more items than a record has fields is malformed. -/
  refusesSurplus : Bool

/-- A value made of a node, or the reason why there is none. -/
abbrev Reading (α : Type) := Except Fault α

namespace Reading

/-- Nothing is made of the node, since the text is not well formed. -/
def malformed {α : Type} : Reading α := .error .malformed

/-- Nothing is made of the node, since it does not fit. -/
def misfit {α : Type} (cause : Misfit) : Reading α := .error (.misfit cause)

/-- Go on if a container came to its end. -/
def whenClosed {α : Type} (closed : Bool) (value : Reading α) : Reading α :=
  if closed then value else malformed

end Reading

open Reading

/-! ## Plain values -/

/-- The refusal of a node where something else is wanted. -/
def refuse {α : Type} (wanted : String) : Node → Reading α
  | .null => misfit (.wrongType .null wanted)
  | .flag value => misfit (.wrongType (.flag value) wanted)
  | .integer value => misfit (.wrongType (.integer value) wanted)
  | .real value => misfit (.wrongType (.real value) wanted)
  | .text (some value) => misfit (.wrongType (.text value) wanted)
  | .array _ _ => misfit (.wrongType .array wanted)
  | .table _ _ => misfit (.wrongType .table wanted)
  | .text none => malformed
  | .oversize => malformed
  | .broken => malformed

/-- A count. -/
def readCount : Node → Reading Count
  | .integer value =>
      if value < 0 ∨ value ≥ Count.limit then
        misfit (.wrongValue value "usize")
      else
        .ok (UInt64.ofNat value.toNat)
  | node => refuse "usize" node

/-- A count, or null for none. -/
def readOptionalCount : Node → Reading (Option Count)
  | .null => .ok none
  | node => (readCount node).map some

/-- A double; a whole number is one too. -/
def readReal : Node → Reading Float
  | .real value => .ok value
  | .integer value => .ok (Float.ofInt value)
  | node => refuse "f64" node

/-- A list of values that are read alike. -/
def readList {α : Type} (read : Node → Reading α) : Node → Reading (List α)
  | .array items closed => do
      let values ← items.mapM read
      whenClosed closed (.ok values)
  | node => refuse "a sequence" node

/-! ## Records -/

/-- Read a field of a table that must not have been read before. -/
def readOnce {α : Type} (name : String) (previous : Option α)
    (read : Node → Reading α) (node : Node) : Reading (Option α) :=
  match previous with
  | some _ => misfit (.duplicateField name)
  | none => (read node).map some

/-- Pass over a field of a table that nobody asked for. -/
def passOver {State : Type} (state : State) (node : Node) : Reading State :=
  if node.intact then .ok state else malformed

/-- Go through the fields of a table, each of which changes a state. -/
def readFields {State : Type} (accept : State → String → Node → Reading State)
    (fields : List (Option String × Node)) (closed : Bool) (state : State) :
    Reading State := do
  let state ← fields.foldlM (fun state (key, node) =>
    match key with
    | none => malformed
    | some key => accept state key node) state
  whenClosed closed (.ok state)

/-- A field that a table must have had. -/
def required {α : Type} (name : String) : Option α → Reading α
  | some value => .ok value
  | none => misfit (.missingField name)

/-- What is left of an array whose items are read one by one. -/
structure Items where
  record : String
  fields : Nat
  read : Nat
  rest : List Node
  closed : Bool

namespace Items

/-- The items behind the next one. -/
def behind (items : Items) (rest : List Node) : Items :=
  { items with read := items.read + 1, rest := rest }

/-- Read the next item, which must be there. -/
def next {α : Type} (items : Items) (read : Node → Reading α) :
    Reading (α × Items) :=
  match items.rest with
  | node :: rest => (read node).map fun value => (value, items.behind rest)
  | [] => whenClosed items.closed
      (misfit (.wrongLength items.read items.record items.fields))

/-- Read the next item; if the array has come to its end, a value is given for it. -/
def nextOr {α : Type} (items : Items) (otherwise : α) (read : Node → Reading α) :
    Reading (α × Items) :=
  match items.rest with
  | node :: rest => (read node).map fun value => (value, items.behind rest)
  | [] => whenClosed items.closed (.ok (otherwise, items))

/-- Look at the end of the array. -/
def finish {α : Type} (items : Items) (dialect : Dialect) (value : α) : Reading α :=
  if items.rest.isEmpty || !dialect.refusesSurplus then
    whenClosed items.closed (.ok value)
  else
    malformed

end Items

/-- A record with a name, made of a table or of an array of its fields. -/
def readRecord {α : Type} (name : String) (fields : Nat)
    (ofTable : List (Option String × Node) → Bool → Reading α)
    (ofItems : Items → Reading α) : Node → Reading α
  | .table entries closed => ofTable entries closed
  | .array items closed => ofItems ⟨name, fields, 0, items, closed⟩
  | node => refuse ("struct " ++ name) node

end Stepping.Document
