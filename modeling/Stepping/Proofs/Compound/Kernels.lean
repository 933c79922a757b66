import Stepping.Proofs.Compound.Counting
import Mathlib.Data.List.Sort

/-!
# Kernels of compounds

The kernels of a compound are the names that its members declare, each of them
once, in the order of the names' bytes.  Names of the same bytes are the same, so
a collection in this order is known by the names in it.  So compounds whose
members declare the same names have the same kernels, however the names are
spread over the members and however often they are declared.
-/

namespace Stepping

namespace Kernels

/-! ## The order of names -/

/-- One name comes before another in the order of their bytes. -/
def Before (first second : String) : Prop :=
  bytes first < bytes second

theorem precedes_iff_before {first second : String} :
    precedes first second = true ↔ Before first second :=
  decide_eq_true_iff

theorem bytes_injective : Function.Injective bytes := by
  intro first second same
  apply String.toByteArray_inj.mp
  exact ByteArray.ext (Array.toList_inj.mp same)

theorem Before.trans {first second third : String}
    (left : Before first second) (right : Before second third) :
    Before first third :=
  List.lt_trans left right

/-- Of two names one comes before the other, or they are the same. -/
theorem before_of_not_before {first second : String}
    (distinct : first ≠ second) (late : ¬ Before first second) :
    Before second first := by
  by_contra later
  exact
    distinct
      (bytes_injective
        (List.le_antisymm (List.not_lt.mp later) (List.not_lt.mp late)))

instance : Std.Irrefl Before where
  irrefl := fun name => List.lt_irrefl (bytes name)

instance : Std.Antisymm Before where
  antisymm := fun _ _ left right => (List.lt_asymm left right).elim

/-! ## Names at their places -/

theorem mem_place {name other : String} {names : List String} :
    other ∈ place name names ↔ other = name ∨ other ∈ names := by
  induction names with
  | nil => simp [place]
  | cons head tail induction =>
      rw [place]
      split_ifs with same early
      · simp [same]
      · simp
      · simp only [List.mem_cons, induction]
        exact or_left_comm

/-- A name is placed before all that come behind it. -/
theorem pairwise_place (name : String) {names : List String}
    (ordered : names.Pairwise Before) :
    (place name names).Pairwise Before := by
  induction names with
  | nil => exact List.pairwise_singleton Before name
  | cons head tail induction =>
      rcases List.pairwise_cons.mp ordered with ⟨least, rest⟩
      rw [place]
      split_ifs with same early
      · exact ordered
      · have first := precedes_iff_before.mp early
        refine List.pairwise_cons.mpr ⟨?_, ordered⟩
        intro other among
        rcases List.mem_cons.mp among with rfl | behind
        · exact first
        · exact first.trans (least other behind)
      · have last : Before head name :=
          before_of_not_before same (mt precedes_iff_before.mpr early)
        refine List.pairwise_cons.mpr ⟨?_, induction rest⟩
        intro other among
        rcases mem_place.mp among with rfl | behind
        · exact last
        · exact least other behind

/-! ## Collections -/

/-- A collection that lists its names in order and without repetitions. -/
def Ordered (kernels : Kernels) : Prop :=
  kernels.names.Pairwise Before

theorem mem_insert {kernels : Kernels} {name other : String} :
    other ∈ kernels.insert name ↔ other = name ∨ other ∈ kernels :=
  mem_place

theorem Ordered.insert {kernels : Kernels} (ordered : kernels.Ordered)
    (name : String) : (kernels.insert name).Ordered :=
  pairwise_place name ordered

theorem mem_foldl_insert
    {names : List String} {kernels : Kernels} {other : String} :
    other ∈ names.foldl Kernels.insert kernels ↔
      other ∈ kernels ∨ other ∈ names := by
  induction names generalizing kernels with
  | nil => simp
  | cons name names induction =>
      rw [List.foldl_cons, induction, mem_insert, List.mem_cons]
      tauto

theorem Ordered.foldl_insert
    {kernels : Kernels} (ordered : kernels.Ordered) (names : List String) :
    (names.foldl Kernels.insert kernels).Ordered := by
  induction names generalizing kernels with
  | nil => exact ordered
  | cons name names induction => exact induction (ordered.insert name)

theorem mem_union {first second : Kernels} {name : String} :
    name ∈ first.union second ↔ name ∈ first ∨ name ∈ second :=
  mem_foldl_insert

theorem mem_foldl_union
    {collections : List Kernels} {kernels : Kernels} {name : String} :
    name ∈ collections.foldl union kernels ↔
      name ∈ kernels ∨ ∃ collection ∈ collections, name ∈ collection := by
  induction collections generalizing kernels with
  | nil => simp
  | cons collection collections induction =>
      rw [List.foldl_cons, induction, mem_union, or_assoc]
      simp

theorem Ordered.foldl_union
    {kernels : Kernels} (ordered : kernels.Ordered)
    (collections : List Kernels) :
    (collections.foldl union kernels).Ordered := by
  induction collections generalizing kernels with
  | nil => exact ordered
  | cons collection collections induction =>
      exact induction (ordered.foldl_insert collection.names)

theorem mem_unions {collections : List Kernels} {name : String} :
    name ∈ unions collections ↔
      ∃ collection ∈ collections, name ∈ collection := by
  rw [unions, mem_foldl_union]
  exact or_iff_right List.not_mem_nil

/-- Whatever the collections, their union is in order. -/
theorem ordered_unions (collections : List Kernels) :
    (unions collections).Ordered :=
  Ordered.foldl_union List.Pairwise.nil collections

/-- Collections in order are known by their names. -/
theorem Ordered.ext {first second : Kernels}
    (left : first.Ordered) (right : second.Ordered)
    (same : ∀ name, name ∈ first ↔ name ∈ second) : first = second :=
  congrArg Kernels.mk (List.Pairwise.eq_of_mem_iff left right same)

end Kernels

/-! ## The kernels of a compound -/

variable {setting : Setting} {size : Nat}

namespace Compound

/-- A name that some member of the compound declares. -/
def Declares (compound : Compound setting size) (name : String) : Prop :=
  ∃ member ∈ compound.members, name ∈ member.kernels

theorem mem_kernels_iff {compound : Compound setting size} {name : String} :
    name ∈ compound.kernels ↔ compound.Declares name := by
  rw [kernels, Kernels.mem_unions, Declares]
  simp

/-- The kernels of compounds are the same just if their members declare the same names. -/
theorem kernels_eq_iff
    {other : Setting} {more : Nat}
    {first : Compound setting size} {second : Compound other more} :
    first.kernels = second.kernels ↔
      ∀ name, first.Declares name ↔ second.Declares name := by
  constructor
  · intro same name
    rw [← mem_kernels_iff, same, mem_kernels_iff]
  · intro same
    refine Kernels.Ordered.ext (Kernels.ordered_unions _)
      (Kernels.ordered_unions _) fun name => ?_
    show name ∈ first.kernels ↔ name ∈ second.kernels
    rw [mem_kernels_iff, mem_kernels_iff]
    exact same name

/-- A further member brings the names that it declares. -/
theorem mem_kernels_append
    {compound : Compound setting size} {member : Member setting size}
    {name : String} :
    name ∈ Compound.kernels
        { compound with members := compound.members ++ [member] } ↔
      name ∈ compound.kernels ∨ name ∈ member.kernels := by
  rw [mem_kernels_iff, mem_kernels_iff, Declares, Declares]
  simp only [List.mem_append, List.mem_singleton, or_and_right, exists_or,
    exists_eq_left]

/-- A member that declares more names brings just those. -/
theorem mem_kernels_put
    {compound : Compound setting size} {index : Nat}
    {old new : Member setting size}
    (found : compound.members[index]? = some old)
    {brought : String → Prop}
    (more : ∀ name, name ∈ new.kernels ↔ name ∈ old.kernels ∨ brought name)
    {name : String} :
    name ∈ (compound.put index new).kernels ↔
      name ∈ compound.kernels ∨ brought name := by
  rw [mem_kernels_iff, mem_kernels_iff]
  have own : new ∈ (compound.put index new).members :=
    List.mem_of_getElem? (getElem?_put_self found)
  constructor
  · rintro ⟨member, there, declared⟩
    rcases List.mem_or_eq_of_mem_set there with stayed | rfl
    · exact .inl ⟨member, stayed, declared⟩
    · rcases (more name).mp declared with before | late
      · exact .inl ⟨old, List.mem_of_getElem? found, before⟩
      · exact .inr late
  · rintro (⟨member, there, declared⟩ | late)
    · rcases List.mem_iff_getElem?.mp there with ⟨place, held⟩
      by_cases same : place = index
      · subst same
        cases Option.some.inj (held.symm.trans found)
        exact ⟨new, own, (more name).mpr (.inl declared)⟩
      · have stays : (compound.put index new).members[place]? = some member := by
          rw [getElem?_put_of_ne (Ne.symm same)]
          exact held
        exact ⟨member, List.mem_of_getElem? stays, declared⟩
    · exact ⟨new, own, (more name).mpr (.inr late)⟩

/-- Where the members declare what they declared before, so does the compound. -/
theorem kernels_of_members
    {old new : Compound setting size}
    (same :
      new.members.map Member.kernels = old.members.map Member.kernels) :
    new.kernels = old.kernels :=
  congrArg Kernels.unions same

end Compound

end Stepping
