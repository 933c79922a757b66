/-!
# Physical quantities

Times and molar energies are stored in SI units.  A value in picoseconds or in
kilojoules per mole is scaled when a quantity is made from it and scaled back
when the quantity is read, so a value that passes through a quantity may come
back with another last digit, or as zero or infinity at the ends of the range.
-/

namespace Stepping

/-- A span of time, stored in seconds. -/
structure Time where
  seconds : Float
deriving DecidableEq

namespace Time

/-- The time of so many picoseconds. -/
def ofPicoseconds (value : Float) : Time :=
  ⟨value * 1e-12⟩

/-- The time read in picoseconds. -/
def picoseconds (time : Time) : Float :=
  time.seconds * 1e12

end Time

/-- An energy per amount of substance, stored in joules per mole. -/
structure MolarEnergy where
  joulesPerMole : Float
deriving DecidableEq

namespace MolarEnergy

/-- The energy of so many kilojoules per mole. -/
def ofKilojoulesPerMole (value : Float) : MolarEnergy :=
  ⟨value * 1000⟩

/-- The energy read in kilojoules per mole. -/
def kilojoulesPerMole (energy : MolarEnergy) : Float :=
  energy.joulesPerMole / 1000

end MolarEnergy

end Stepping
