/-!
# Documents

A document is read into a tree of nodes before anything is made of it.  Where a
text stops being well formed, the tree keeps what came before: the node that
could not be read is `broken`, and the arrays and tables around it are not
closed.  Whoever walks through the tree in the order of the text thus meets the
end of what could be read at its place, and can be refused by something in front
of it first.
-/

namespace Stepping.Document

/-- A value in a document, as far as it could be read. -/
inductive Node where
  | null
  | flag (value : Bool)
  | integer (value : Int)
  | real (value : Float)
  /-- A number that is too great for a double. -/
  | oversize
  /-- Text, unless it has a part that stands for no character. -/
  | text (value : Option String)
  /-- Values in order, and whether the array came to its end. -/
  | array (items : List Node) (closed : Bool)
  /-- Keys with their values in order, and whether the table came to its end. -/
  | table (fields : List (Option String × Node)) (closed : Bool)
  | broken

namespace Node

/-- Whether a value could be read to its end. -/
def intact : Node → Bool
  | .array _ closed => closed
  | .table _ closed => closed
  | .broken => false
  | _ => true

end Node

/-- A whole document. -/
structure Tree where
  root : Node
  /-- Whether anything follows the value. -/
  trailing : Bool

end Stepping.Document
