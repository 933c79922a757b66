import Stepping.Document.Node

/-!
# Tables of TOML

The lines of a TOML text fill nested tables.  A table may be opened by a line of
its own, it may be implied by a longer path, or points in a key may call for it;
no table is opened twice, no key gets two values, and points in keys only fill
tables that points in keys have called for.  Keys keep the order in which they
were given, and an implied table takes its place when it is opened.
-/

namespace Stepping.Document.Toml

/-- How a table came to be. -/
inductive Origin where
  /-- It was opened by a line of its own. -/
  | opened
  /-- It lies on the path to a table that was opened. -/
  | implied
  /-- It lies on the path of a key. -/
  | dotted
deriving DecidableEq

/-- What a key stands for. -/
inductive Item where
  | value (node : Node)
  | table (origin : Origin) (entries : List (String × Item))
  /-- An array of tables, newest first; only the newest may be filled further. -/
  | tables (rows : List (List (String × Item)))

/-- The keys of a table with what they stand for, in order. -/
abbrev Entries := List (String × Item)

/-- The entries with another item for a key. -/
def replace (key : String) (item : Item) (entries : Entries) : Entries :=
  entries.map fun (present, old) =>
    if present = key then (present, item) else (present, old)

/--
Change the entries of the table at the end of a path.  Tables that the path
needs and that are not there are made, of the given origin.
-/
def alter (made : Origin) (change : Origin → Entries → Option Entries) :
    (path : List String) → Origin → Entries → Option Entries
  | [], origin, entries => change origin entries
  | key :: path, _, entries =>
      match entries.lookup key with
      | none => do
          let inner ← alter made change path made []
          return entries ++ [(key, .table made inner)]
      | some (.table origin inner) =>
          if made = .dotted ∧ origin = .opened then
            none
          else do
            let inner ← alter made change path origin inner
            return replace key (.table origin inner) entries
      | some (.tables (row :: rows)) => do
          let row ← alter made change path .opened row
          return replace key (.tables (row :: rows)) entries
      | some _ => none

/-- Give a value to a key of a table, below the tables that points in the key call for. -/
def assign (key : List String) (value : Node) (origin : Origin)
    (entries : Entries) : Option Entries :=
  match key.getLast? with
  | none => none
  | some last =>
      let path := key.dropLast
      alter .dotted (fun origin entries =>
        if (origin = .dotted) = path.isEmpty ∨ (entries.lookup last).isSome then
          none
        else
          some (entries ++ [(last, .value value)])) path origin entries

/-- Open the table at a path. -/
def openTable (path : List String) (entries : Entries) : Option Entries :=
  match path.getLast? with
  | none => none
  | some last =>
      alter .implied (fun _ entries =>
        match entries.lookup last with
        | none => some (entries ++ [(last, .table .opened [])])
        | some (.table .implied inner) =>
            some (entries.filter (fun entry => entry.1 != last)
              ++ [(last, .table .opened inner)])
        | some _ => none) path.dropLast .opened entries

/-- Open one more table of the array of tables at a path. -/
def openRow (path : List String) (entries : Entries) : Option Entries :=
  match path.getLast? with
  | none => none
  | some last =>
      alter .implied (fun _ entries =>
        match entries.lookup last with
        | none => some (entries ++ [(last, .tables [[]])])
        | some (.tables rows) => some (replace last (.tables ([] :: rows)) entries)
        | some _ => none) path.dropLast .opened entries

mutual

/-- The node of an item. -/
def Item.node : Item → Node
  | .value node => node
  | .table _ entries => .table (fieldNodes entries) true
  | .tables rows => .array (rowNodes rows).reverse true

/-- The fields of entries. -/
def fieldNodes : List (String × Item) → List (Option String × Node)
  | [] => []
  | (key, item) :: entries => (some key, item.node) :: fieldNodes entries

/-- The tables of an array of tables, in the same order. -/
def rowNodes : List (List (String × Item)) → List Node
  | [] => []
  | row :: rows => .table (fieldNodes row) true :: rowNodes rows

end

end Stepping.Document.Toml
