import Mathlib.Logic.Function.Basic
import VliwPack.Proofs.Cycle.Booking
import VliwPack.Recognizer

/-! # Exchanging the sides of the datapath

The two sides of the datapath are alike: with units and cross paths replaced by their
opposites, a claim has the opposite conflict with the exchanged occupancy
(`Occupancy.conflict?_swapSides`), booking it gives the exchanged occupancy
(`Occupancy.swapSides_add`), and the counters of cross paths are exchanged
(`Stats.swapSides_countConflict`).
-/

namespace VliwPack

private theorem Side.opposite_eq_iff {side other : Side} :
    side.opposite = other ↔ side = other.opposite :=
  Function.Involutive.eq_iff opposite_opposite

namespace FunctionalUnit

/-- The unit of the same kind on the other side. -/
def opposite (unit : FunctionalUnit) : FunctionalUnit := ⟨unit.kind, unit.side.opposite⟩

/-- Two changes of side lead back. -/
@[simp] theorem opposite_opposite (unit : FunctionalUnit) : unit.opposite.opposite = unit :=
  congrArg (mk unit.kind) unit.side.opposite_opposite

private theorem opposite_eq_iff {unit other : FunctionalUnit} :
    unit.opposite = other ↔ unit = other.opposite :=
  Function.Involutive.eq_iff opposite_opposite

end FunctionalUnit

namespace CrossPath

/-- The path of the same use that serves the other side. -/
def opposite : CrossPath → CrossPath
  | t1 => t2
  | t2 => t1
  | x1 => x2
  | x2 => x1

/-- Two changes of side lead back. -/
@[simp] theorem opposite_opposite (path : CrossPath) : path.opposite.opposite = path := by
  cases path <;> rfl

private theorem opposite_eq_iff {path other : CrossPath} :
    path.opposite = other ↔ path = other.opposite :=
  Function.Involutive.eq_iff opposite_opposite

/-- The opposite of a side's data path is that of the opposite side. -/
theorem opposite_data (side : Side) : (data side).opposite = data side.opposite := by
  cases side <;> rfl

end CrossPath

/-- The claim with units, cross paths and sides of moves on the other side. -/
def Claim.swapSides : Claim → Claim
  | pseudo => pseudo
  | unit claimed path => unit claimed.opposite (path.map CrossPath.opposite)
  | move side path => move side.opposite (path.map CrossPath.opposite)

/-- The conflict on the other side. -/
def Conflict.swapSides : Conflict → Conflict
  | unitBusy unit => unitBusy unit.opposite
  | movePressure unit => movePressure unit.opposite
  | moveBudget side => moveBudget side.opposite
  | crossPathBusy path => crossPathBusy path.opposite

/-! ### Occupancies -/

namespace Occupancy

/-- What is taken on each side is taken on the other. -/
def swapSides (occupancy : Occupancy) : Occupancy where
  active unit := occupancy.active unit.opposite
  taken path := occupancy.taken path.opposite
  moves side := occupancy.moves side.opposite

variable (occupancy : Occupancy)

private theorem active_swapSides (unit : FunctionalUnit) :
    occupancy.swapSides.active unit.opposite = occupancy.active unit :=
  congrArg occupancy.active unit.opposite_opposite

private theorem taken_swapSides (path : CrossPath) :
    occupancy.swapSides.taken path.opposite = occupancy.taken path :=
  congrArg occupancy.taken path.opposite_opposite

private theorem movesAvailable_swapSides (side : Side) :
    occupancy.swapSides.movesAvailable side.opposite = occupancy.movesAvailable side :=
  congrArg occupancy.movesAvailable side.opposite_opposite

private theorem isBusy_swapSides (unit : FunctionalUnit) :
    occupancy.swapSides.isBusy unit.opposite = occupancy.isBusy unit :=
  congrArg occupancy.isBusy unit.opposite_opposite

private theorem pathConflict?_swapSides (path : Option CrossPath) :
    occupancy.swapSides.pathConflict? (path.map CrossPath.opposite) =
      (occupancy.pathConflict? path).map Conflict.swapSides := by
  cases path with
  | none => rfl
  | some path =>
      rw [Option.map_some, pathConflict?, pathConflict?, Option.filter_some, Option.filter_some,
        taken_swapSides]
      by_cases taken : occupancy.taken path = true
      · rw [if_pos taken, if_pos taken]
        rfl
      · rw [if_neg taken, if_neg taken]
        rfl

/-- A claim on the other side has the conflict there, if it has one here. -/
theorem conflict?_swapSides (claim : Claim) :
    occupancy.swapSides.conflict? claim.swapSides =
      (occupancy.conflict? claim).map Conflict.swapSides := by
  cases claim with
  | pseudo => rfl
  | unit claimed path =>
      rw [Claim.swapSides, conflict?, conflict?, active_swapSides, isBusy_swapSides,
        pathConflict?_swapSides]
      by_cases issued : occupancy.active claimed = true
      · rw [if_pos issued, if_pos issued]
        rfl
      · rw [if_neg issued, if_neg issued]
        by_cases pressed : occupancy.isBusy claimed = true
        · rw [if_pos pressed, if_pos pressed]
          rfl
        · rw [if_neg pressed, if_neg pressed]
  | move side path =>
      rw [Claim.swapSides, conflict?, conflict?, movesAvailable_swapSides, pathConflict?_swapSides]
      cases occupancy.pathConflict? path with
      | some found => rfl
      | none =>
          by_cases used : occupancy.movesAvailable side = 0
          · rw [if_pos used, if_pos used]
            rfl
          · rw [if_neg used, if_neg used]
            rfl

/-- Booking a claim on the other side exchanges the sides of what booking it gives. -/
theorem swapSides_add (claim : Claim) :
    (occupancy.add claim).swapSides = occupancy.swapSides.add claim.swapSides := by
  have units (other : FunctionalUnit) :
      claim.swapSides.unit? = some other ↔ claim.unit? = some other.opposite := by
    cases claim <;> simp [Claim.swapSides, Claim.unit?, FunctionalUnit.opposite_eq_iff]
  have paths (other : CrossPath) :
      claim.swapSides.path? = some other ↔ claim.path? = some other.opposite := by
    cases claim <;> simp [Claim.swapSides, Claim.path?, CrossPath.opposite_eq_iff]
  have sides (other : Side) :
      claim.swapSides.moveSide? = some other ↔ claim.moveSide? = some other.opposite := by
    cases claim <;> simp [Claim.swapSides, Claim.moveSide?, Side.opposite_eq_iff]
  unfold swapSides add
  congr 1
  · funext other
    rw [Bool.eq_iff_iff]
    simp [units]
  · funext other
    rw [Bool.eq_iff_iff]
    simp [paths]
  · funext other
    simp [sides]

end Occupancy

/-! ### Statistics -/

/-- The counter of each path is the one of the opposite path. -/
def PathCounts.swapSides (counts : PathCounts) : PathCounts :=
  { t1 := counts.t2, t2 := counts.t1, x1 := counts.x2, x2 := counts.x1 }

namespace Stats

/-- The counters of T1 and T2 and those of X1 and X2 are exchanged. -/
def swapSides (stats : Stats) : Stats := { stats with pathHazards := stats.pathHazards.swapSides }

variable (stats : Stats)

/-- Conflicts are counted alike on the other side. -/
theorem swapSides_countConflict (conflict : Conflict) :
    (stats.countConflict conflict).swapSides =
      stats.swapSides.countConflict conflict.swapSides := by
  cases conflict with
  | unitBusy | movePressure | moveBudget => rfl
  | crossPathBusy path => cases path <;> rfl

/-- Claims are counted alike on the other side. -/
theorem swapSides_countClaim (claim : Claim) :
    (stats.countClaim claim).swapSides = stats.swapSides.countClaim claim.swapSides := by
  cases claim <;> rfl

end Stats

/-- The recognizer with the sides exchanged. -/
def Recognizer.swapSides (recognizer : Recognizer) : Recognizer :=
  ⟨recognizer.occupancy.swapSides, recognizer.stats.swapSides⟩

end VliwPack
