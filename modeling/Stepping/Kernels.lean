/-!
# Kernel names

Members declare the compute kernels that they need.  A collection of kernel
names is kept in the order of the names' UTF-8 bytes and without repetitions,
so the union over several members does not depend on their order.
-/

namespace Stepping

/-- A set of kernel names, listed in the order of their bytes. -/
structure Kernels where
  names : List String
deriving DecidableEq

namespace Kernels

/-- The UTF-8 bytes of a name, which decide its place in a collection. -/
def bytes (name : String) : List UInt8 :=
  name.toUTF8.data.toList

/-- Whether the first name comes before the second. -/
def precedes (first second : String) : Bool :=
  decide (bytes first < bytes second)

/-- Put a name at its place in an ordered list, unless it is there already. -/
def place (name : String) : List String → List String
  | [] => [name]
  | head :: tail =>
      if name = head then head :: tail
      else if precedes name head then name :: head :: tail
      else head :: place name tail

/-- No kernels. -/
def none : Kernels := ⟨[]⟩

/-- The collection with one more name. -/
def insert (kernels : Kernels) (name : String) : Kernels :=
  ⟨place name kernels.names⟩

/-- The set of the names of a list. -/
def ofNames (names : List String) : Kernels :=
  names.foldl insert none

/-- The names of either collection. -/
def union (first second : Kernels) : Kernels :=
  second.names.foldl insert first

/-- The names of any collection of a list. -/
def unions (collections : List Kernels) : Kernels :=
  collections.foldl union none

instance : Membership String Kernels where
  mem kernels name := name ∈ kernels.names

end Kernels

end Stepping
