import Stepping.Document.Json.Token

/-!
# Trees of JSON

The tokens of a JSON text are put together one after another.  What is being
put together is the stack of the arrays and tables that are still open, and what
may come next.  At the first token that may not come, or at the end of the
text, the containers that are still open are given up and stay unclosed.
-/

namespace Stepping.Document.Json

/-- The fields of a table, newest first. -/
abbrev Fields := List (Option String × Node)

/-- A container that is still open, with what it holds so far, newest first. -/
inductive Frame where
  | array (items : List Node)
  | table (fields : Fields) (key : Option String)

/-- The table of fields that are listed newest first. -/
def tableOf (fields : Fields) (closed : Bool) : Node :=
  .table fields.reverse closed

/-- The array of items that are listed newest first. -/
def arrayOf (items : List Node) (closed : Bool) : Node :=
  .array items.reverse closed

/-- A container that ends, closed or not, with the value that it was waiting for. -/
def Frame.fill (value : Node) (closed : Bool) : Frame → Node
  | .array items => arrayOf (value :: items) closed
  | .table fields key => tableOf ((key, value) :: fields) closed

/-- What is being put together, and what may come next. -/
inductive Building where
  | atValue (stack : List Frame)
  /-- The first item of an array may come, or its end. -/
  | atFirstItem (stack : List Frame)
  /-- The first key of a table may come, or its end. -/
  | atFirstKey (stack : List Frame)
  | atKey (fields : Fields) (stack : List Frame)
  | atColon (fields : Fields) (key : Option String) (stack : List Frame)
  | complete (value : Node) (stack : List Frame)
  | finished (tree : Tree)

/-- Give up the containers that are open around a value. -/
def abandon (value : Node) (stack : List Frame) : Tree :=
  ⟨stack.foldl (fun value frame => frame.fill value false) value, false⟩

namespace Building

/-- Go on with a token where a value must come. -/
def beginValue (stack : List Frame) : Token → Building
  | .leaf value => .complete value stack
  | .text value => .complete (.text value) stack
  | .openArray => .atFirstItem stack
  | .openTable => .atFirstKey stack
  | _ => .finished (abandon .broken stack)

/-- The tree if the text ends here. -/
def conclude : Building → Tree
  | .atValue stack => abandon .broken stack
  | .atFirstItem stack => abandon (arrayOf [] false) stack
  | .atFirstKey stack => abandon (tableOf [] false) stack
  | .atKey fields stack => abandon (tableOf fields false) stack
  | .atColon fields key stack =>
      abandon (tableOf ((key, .broken) :: fields) false) stack
  | .complete value [] => ⟨value, false⟩
  | .complete value (frame :: stack) => abandon (frame.fill value false) stack
  | .finished tree => tree

/-- Go on with a token. -/
def next : Building → Token → Building
  | .atValue stack, token => beginValue stack token
  | .atFirstItem stack, .closeArray => .complete (arrayOf [] true) stack
  | .atFirstItem stack, token => beginValue (.array [] :: stack) token
  | .atFirstKey stack, .closeTable => .complete (tableOf [] true) stack
  | .atFirstKey stack, .text key => .atColon [] key stack
  | .atKey fields stack, .text key => .atColon fields key stack
  | .atColon fields key stack, .colon => .atValue (.table fields key :: stack)
  | .complete value (.array items :: stack), .comma =>
      .atValue (.array (value :: items) :: stack)
  | .complete value (.array items :: stack), .closeArray =>
      .complete (arrayOf (value :: items) true) stack
  | .complete value (.table fields key :: stack), .comma =>
      .atKey ((key, value) :: fields) stack
  | .complete value (.table fields key :: stack), .closeTable =>
      .complete (tableOf ((key, value) :: fields) true) stack
  | .complete value [], _ => .finished ⟨value, true⟩
  | building, _ => .finished building.conclude

end Building

/-- The tree of tokens. -/
def treeOf (tokens : List Token) : Tree :=
  (tokens.foldl Building.next (.atValue [])).conclude

/-- The tree of a JSON text. -/
def read (text : String) : Tree :=
  treeOf (tokens text.toList)

end Stepping.Document.Json
