import VliwPack.Claim

/-! # Scheduling statistics

Counters of cycles and bundles, of what was booked, and of hazards by cause.
-/

namespace VliwPack

/-- One counter for each cross path. -/
structure PathCounts where
  t1 : Nat := 0
  t2 : Nat := 0
  x1 : Nat := 0
  x2 : Nat := 0
  deriving DecidableEq

namespace PathCounts

/-- The counter of a path. -/
def get (counts : PathCounts) : CrossPath → Nat
  | .t1 => counts.t1
  | .t2 => counts.t2
  | .x1 => counts.x1
  | .x2 => counts.x2

/-- Counts a path once more. -/
def count (counts : PathCounts) : CrossPath → PathCounts
  | .t1 => { counts with t1 := counts.t1 + 1 }
  | .t2 => { counts with t2 := counts.t2 + 1 }
  | .x1 => { counts with x1 := counts.x1 + 1 }
  | .x2 => { counts with x2 := counts.x2 + 1 }

/-- All counters together. -/
def total (counts : PathCounts) : Nat := counts.t1 + counts.t2 + counts.x1 + counts.x2

end PathCounts

/-- Counters over the regions scheduled so far. -/
structure Stats where
  /-- Cycle boundaries crossed. -/
  cycles : Nat := 0
  /-- Bundles begun. -/
  bundles : Nat := 0
  /-- Empty cycles inserted on request; packing inserts none. -/
  noopCycles : Nat := 0
  /-- Instructions booked on a unit. -/
  instructions : Nat := 0
  /-- Moves booked. -/
  moves : Nat := 0
  /-- Pseudo instructions passed through. -/
  pseudo : Nat := 0
  /-- Hazards over a unit that had issued. -/
  unitHazards : Nat := 0
  /-- Hazards over an idle unit whose side's move budget was used up. -/
  movePressureHazards : Nat := 0
  /-- Hazards of a move whose side's move budget was used up. -/
  moveBudgetHazards : Nat := 0
  /-- Hazards over a taken cross path. -/
  pathHazards : PathCounts := {}
  deriving DecidableEq

namespace Stats

/-- Counts a conflict under its cause. -/
def countConflict (stats : Stats) : Conflict → Stats
  | .unitBusy _ => { stats with unitHazards := stats.unitHazards + 1 }
  | .movePressure _ => { stats with movePressureHazards := stats.movePressureHazards + 1 }
  | .moveBudget _ => { stats with moveBudgetHazards := stats.moveBudgetHazards + 1 }
  | .crossPathBusy path => { stats with pathHazards := stats.pathHazards.count path }

/-- Counts a booked claim by its kind. -/
def countClaim (stats : Stats) : Claim → Stats
  | .pseudo => { stats with pseudo := stats.pseudo + 1 }
  | .unit _ _ => { stats with instructions := stats.instructions + 1 }
  | .move _ _ => { stats with moves := stats.moves + 1 }

/-- Hazards of every cause. -/
def hazards (stats : Stats) : Nat :=
  stats.unitHazards + stats.movePressureHazards + stats.moveBudgetHazards +
    stats.pathHazards.total

end Stats

end VliwPack
