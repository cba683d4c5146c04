import VliwPack.Claim
import VliwPack.Fault

/-! # Occupancy of a cycle

An occupancy says which units and cross paths are taken in the cycle being filled
and how many moves it holds on each side. Moves take no unit; they draw on a
budget that they share with the side's units other than the multiplier.
-/

namespace VliwPack

/-- What is taken in a cycle. -/
structure Occupancy where
  /-- The unit has issued. -/
  active : FunctionalUnit → Bool
  /-- The cross path is taken. -/
  taken : CrossPath → Bool
  /-- Moves whose destination is on the side. -/
  moves : Side → Nat

namespace Occupancy

/-- Nothing is taken. -/
def empty : Occupancy where
  active _ := false
  taken _ := false
  moves _ := 0

/-- Nothing is taken. -/
def isEmpty (occupancy : Occupancy) : Bool :=
  FunctionalUnit.all.all (!occupancy.active ·) && CrossPath.all.all (!occupancy.taken ·) &&
    Side.all.all (occupancy.moves · == 0)

/-- Units of a side that have issued and share their slots with moves. -/
def activeSharing (occupancy : Occupancy) (side : Side) : Nat :=
  UnitKind.all.countP fun kind => kind.sharesMoveBudget && occupancy.active ⟨kind, side⟩

/-- What is left of a side's move budget. Bookings past the budget leave nothing. -/
def movesAvailable (occupancy : Occupancy) (side : Side) : Nat :=
  Machine.moveBudget - (occupancy.moves side + occupancy.activeSharing side)

/-- The unit cannot accept an instruction: it has issued, or it shares its slot
with moves that have used up its side's budget. -/
def isBusy (occupancy : Occupancy) (unit : FunctionalUnit) : Bool :=
  occupancy.active unit ||
    unit.kind.sharesMoveBudget && occupancy.movesAvailable unit.side == 0

/-- The path is given and taken. -/
def isTaken (occupancy : Occupancy) (path : Option CrossPath) : Bool :=
  path.any occupancy.taken

/-- The units that have issued, side by side. -/
def activeUnits (occupancy : Occupancy) : List FunctionalUnit :=
  FunctionalUnit.allBySide.filter occupancy.active

/-- The cross paths taken, in index order. -/
def takenPaths (occupancy : Occupancy) : List CrossPath :=
  CrossPath.all.filter occupancy.taken

/-- Takes a cross path, if one is given. -/
def takePath (occupancy : Occupancy) (path : Option CrossPath) : Occupancy :=
  { occupancy with taken := fun other => occupancy.taken other || path == some other }

/-- Books a unit and a cross path. A unit that has issued is a fault. -/
def bookUnit (occupancy : Occupancy) (unit : FunctionalUnit) (path : Option CrossPath) :
    Except Fault Occupancy :=
  if occupancy.active unit then
    .error (.bookedTwice unit)
  else
    let active := fun other => occupancy.active other || other == unit
    .ok ({ occupancy with active }.takePath path)

/-- Books a move to a side and a cross path. -/
def bookMove (occupancy : Occupancy) (side : Side) (path : Option CrossPath) : Occupancy :=
  let moves := fun other => occupancy.moves other + if other = side then 1 else 0
  { occupancy with moves }.takePath path

/-- Books a claim. -/
def book (occupancy : Occupancy) : Claim → Except Fault Occupancy
  | .pseudo => .ok occupancy
  | .unit unit path => occupancy.bookUnit unit path
  | .move side path => .ok (occupancy.bookMove side path)

/-- The conflict over a cross path, if it is given and taken. -/
def pathConflict? (occupancy : Occupancy) (path : Option CrossPath) : Option Conflict :=
  (path.filter occupancy.taken).map .crossPathBusy

/-- The first reason why a claim does not fit. A unit's own state comes before its
side's move budget and its path; a move's path comes before the budget. -/
def conflict? (occupancy : Occupancy) : Claim → Option Conflict
  | .pseudo => none
  | .unit unit path =>
      if occupancy.active unit then
        some (.unitBusy unit)
      else if occupancy.isBusy unit then
        some (.movePressure unit)
      else
        occupancy.pathConflict? path
  | .move side path =>
      (occupancy.pathConflict? path).or
        (if occupancy.movesAvailable side = 0 then some (.moveBudget side) else none)

end Occupancy

end VliwPack
