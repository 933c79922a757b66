/-!
# Counts

Numbers of steps are machine words.  A member's step counter and the totals of
a schedule add words, so a sum past `2 ^ 64` wraps; a schedule is only built
when its total fits in one word, which is what keeps the totals of a run exact.
-/

namespace Stepping

/-- A number of steps, as a 64-bit word. -/
abbrev Count := UInt64

namespace Count

/-- One more than the largest count. -/
def limit : Nat := Nat.pow 2 64

theorem toNat_lt_limit (count : Count) : count.toNat < limit :=
  count.toNat_lt

/-- The sum of two counts, if it is a count. -/
def add? (first second : Count) : Option Count :=
  if first.toNat + second.toNat < limit then some (first + second) else none

theorem add?_eq_some_iff {first second sum : Count} :
    add? first second = some sum ↔ first.toNat + second.toNat = sum.toNat := by
  have wrapped : (first + second).toNat = (first.toNat + second.toNat) % limit :=
    UInt64.toNat_add first second
  unfold add?
  split
  next fits =>
    rw [Nat.mod_eq_of_lt fits] at wrapped
    rw [← wrapped, UInt64.toNat_inj, Option.some.injEq]
  next =>
    have := sum.toNat_lt_limit
    simp only [reduceCtorEq, false_iff]
    omega

end Count

end Stepping
