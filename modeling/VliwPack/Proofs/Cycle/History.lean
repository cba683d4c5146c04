import VliwPack.Proofs.Cycle.Ledger

/-! # The occupancy over a history of bookings

A driver may book what does not fit, and begin anew whenever it likes. `Journal.ofCalls`
runs such a history and notes the claims that have been booked since the last reset.
Whatever the history, the occupancy is that of the claims noted: one call keeps this
(`Journal.Exact.after`), and so do all (`Journal.exact_ofCalls`). Every query is then
answered from those claims alone (`Journal.faithful_ofCalls`).
-/

namespace VliwPack.Occupancy

open Claim

/-- A call that changes an occupancy. -/
inductive Call where
  | book (claim : Claim)
  | reset

/-- An occupancy and the claims booked in it since the last reset. -/
structure Journal where
  occupancy : Occupancy := .empty
  booked : List Claim := []

namespace Journal

variable {journal : Journal} {claim : Claim}

/-- The journal after a call. A booking that is refused changes nothing. -/
def after (journal : Journal) : Call → Journal
  | .book claim =>
      match journal.occupancy.book claim with
      | .ok occupancy => ⟨occupancy, journal.booked ++ [claim]⟩
      | .error _ => journal
  | .reset => {}

/-- The journal after a history that begins with nothing taken. -/
def ofCalls (calls : List Call) : Journal := calls.foldl after {}

/-- The units that have been booked. -/
def units (journal : Journal) : List FunctionalUnit := journal.booked.filterMap unit?

/-- The cross paths that have been booked. -/
def paths (journal : Journal) : List CrossPath := journal.booked.filterMap path?

/-- How many moves to a side have been booked. -/
def moves (journal : Journal) (side : Side) : Nat :=
  (journal.booked.filterMap moveSide?).count side

/-- The units of a side that have been booked and share its slots with moves. -/
def sharing (journal : Journal) (side : Side) : Nat :=
  journal.units.countP fun unit => unit.kind.sharesMoveBudget && unit.side == side

/-- Every query of the occupancy is answered from the claims noted. -/
structure Faithful (journal : Journal) : Prop where
  units_distinct : journal.units.Nodup
  activeUnits_distinct : journal.occupancy.activeUnits.Nodup
  activeUnits_order : journal.occupancy.activeUnits.Sublist FunctionalUnit.allBySide
  mem_activeUnits : ∀ unit, unit ∈ journal.occupancy.activeUnits ↔ unit ∈ journal.units
  takenPaths_distinct : journal.occupancy.takenPaths.Nodup
  takenPaths_order : journal.occupancy.takenPaths.Sublist CrossPath.all
  mem_takenPaths : ∀ path, path ∈ journal.occupancy.takenPaths ↔ path ∈ journal.paths
  movesAvailable : ∀ side, (journal.occupancy.movesAvailable side : Int) =
    max 0 (Machine.moveBudget - journal.moves side - journal.sharing side)
  isEmpty : journal.occupancy.isEmpty = true ↔
    journal.units = [] ∧ journal.paths = [] ∧ ∀ side, journal.moves side = 0
  bookUnit : ∀ unit path, journal.occupancy.bookUnit unit path =
    if unit ∈ journal.units then .error (.bookedTwice unit)
    else .ok (journal.occupancy.add (.unit unit path))
  conflict?_unit : ∀ unit path, journal.occupancy.conflict? (.unit unit path) =
    if unit ∈ journal.units then some (.unitBusy unit)
    else if unit.kind.sharesMoveBudget = true ∧
        journal.occupancy.movesAvailable unit.side = 0 then
      some (.movePressure unit)
    else (path.filter (· ∈ journal.paths)).map .crossPathBusy
  conflict?_move : ∀ side path, journal.occupancy.conflict? (.move side path) =
    ((path.filter (· ∈ journal.paths)).map .crossPathBusy).or
      (if journal.occupancy.movesAvailable side = 0 then some (.moveBudget side) else none)

/-! ### The occupancy is that of the claims noted -/

/-- The occupancy is that of the claims noted, and these name no unit twice. -/
structure Exact (journal : Journal) : Prop where
  occupancy_eq : journal.occupancy = ofClaims journal.booked
  distinct : journal.units.Nodup

private theorem exact_empty : Exact {} where
  occupancy_eq := ofClaims_nil.symm
  distinct := List.nodup_nil

namespace Exact

private theorem active_iff (exact : journal.Exact) (unit : FunctionalUnit) :
    journal.occupancy.active unit = true ↔ unit ∈ journal.units := by
  rw [exact.occupancy_eq, active_ofClaims, units]

private theorem taken_iff (exact : journal.Exact) (path : CrossPath) :
    journal.occupancy.taken path = true ↔ path ∈ journal.paths := by
  rw [exact.occupancy_eq, taken_ofClaims, paths]

private theorem moves_eq (exact : journal.Exact) (side : Side) :
    journal.occupancy.moves side = journal.moves side := by
  rw [exact.occupancy_eq, ofClaims, moves]

private theorem activeSharing_eq (exact : journal.Exact) (side : Side) :
    journal.occupancy.activeSharing side = journal.sharing side := by
  rw [exact.occupancy_eq, activeSharing_ofClaims exact.distinct, sharing, units]

/-- A claim on a unit that is not noted can be booked. -/
theorem book_eq_ok (exact : journal.Exact)
    (fresh : ∀ unit, claim.unit? = some unit → unit ∉ journal.units) :
    journal.occupancy.book claim = .ok (journal.occupancy.add claim) := by
  apply book_eq_ok_add
  intro unit claimed
  rw [Bool.eq_false_iff, ne_eq, exact.active_iff]
  exact fresh unit claimed

private theorem book_eq_bookedTwice (exact : journal.Exact) {unit : FunctionalUnit}
    (claimed : claim.unit? = some unit) (noted : unit ∈ journal.units) :
    journal.occupancy.book claim = .error (.bookedTwice unit) :=
  book_eq_error claimed ((exact.active_iff unit).mpr noted)

private theorem append (exact : journal.Exact)
    (fresh : ∀ unit, claim.unit? = some unit → unit ∉ journal.units) :
    Exact ⟨journal.occupancy.add claim, journal.booked ++ [claim]⟩ where
  occupancy_eq := by rw [ofClaims_append_singleton, exact.occupancy_eq]
  distinct := (nodup_filterMap_append_singleton exact.distinct).mpr fresh

/-- One call keeps the occupancy exact. -/
theorem after (exact : journal.Exact) (call : Call) : (journal.after call).Exact := by
  cases call with
  | reset => exact exact_empty
  | book claim =>
      -- Only a unit can be refused: moves and paths are booked however often they come.
      by_cases repeated : ∃ unit, claim.unit? = some unit ∧ unit ∈ journal.units
      · obtain ⟨unit, claimed, noted⟩ := repeated
        rw [Journal.after, exact.book_eq_bookedTwice claimed noted]
        exact exact
      · have fresh : ∀ unit, claim.unit? = some unit → unit ∉ journal.units :=
          fun unit claimed noted => repeated ⟨unit, claimed, noted⟩
        rw [Journal.after, exact.book_eq_ok fresh]
        exact exact.append fresh

/-- A history keeps the occupancy exact. -/
theorem foldl_after (exact : journal.Exact) (calls : List Call) :
    (calls.foldl Journal.after journal).Exact := by
  induction calls generalizing journal with
  | nil => exact exact
  | cons call rest ih => exact ih (exact.after call)

end Exact

/-- The record of any calls is exact. -/
theorem exact_ofCalls (calls : List Call) : (ofCalls calls).Exact :=
  exact_empty.foldl_after calls

/-! ### The queries of an exact occupancy -/

namespace Exact

private theorem mem_activeUnits (exact : journal.Exact) (unit : FunctionalUnit) :
    unit ∈ journal.occupancy.activeUnits ↔ unit ∈ journal.units := by
  rw [Occupancy.mem_activeUnits, exact.active_iff]

private theorem mem_takenPaths (exact : journal.Exact) (path : CrossPath) :
    path ∈ journal.occupancy.takenPaths ↔ path ∈ journal.paths := by
  rw [Occupancy.mem_takenPaths, exact.taken_iff]

private theorem movesAvailable_eq (exact : journal.Exact) (side : Side) :
    (journal.occupancy.movesAvailable side : Int) =
      max 0 (Machine.moveBudget - journal.moves side - journal.sharing side) := by
  rw [movesAvailable, exact.moves_eq, exact.activeSharing_eq]
  omega

private theorem isEmpty_iff (exact : journal.Exact) :
    journal.occupancy.isEmpty = true ↔
      journal.units = [] ∧ journal.paths = [] ∧ ∀ side, journal.moves side = 0 := by
  have noUnit : (∀ unit, journal.occupancy.active unit = false) ↔ journal.units = [] := by
    simp only [Bool.eq_false_iff, ne_eq, exact.active_iff, List.eq_nil_iff_forall_not_mem]
  have noPath : (∀ path, journal.occupancy.taken path = false) ↔ journal.paths = [] := by
    simp only [Bool.eq_false_iff, ne_eq, exact.taken_iff, List.eq_nil_iff_forall_not_mem]
  rw [← noUnit, ← noPath]
  simp [isEmpty, FunctionalUnit.mem_all, CrossPath.mem_all, Side.mem_all, exact.moves_eq,
    and_assoc]

/-- A unit is booked unless it was booked since the last reset. -/
theorem bookUnit_eq (exact : journal.Exact) (unit : FunctionalUnit) (path : Option CrossPath) :
    journal.occupancy.bookUnit unit path =
      if unit ∈ journal.units then .error (.bookedTwice unit)
      else .ok (journal.occupancy.add (.unit unit path)) := by
  change journal.occupancy.book (.unit unit path) = _
  split
  next noted => exact exact.book_eq_bookedTwice rfl noted
  next fresh =>
    apply exact.book_eq_ok
    intro claimed named
    rwa [← Option.some.inj named]

private theorem filter_taken (exact : journal.Exact) (path : Option CrossPath) :
    path.filter journal.occupancy.taken = path.filter (· ∈ journal.paths) := by
  congr 1
  funext other
  rw [Bool.eq_iff_iff, exact.taken_iff, decide_eq_true_iff]

/-- The conflicts of a unit's claim, told by what was booked since the last reset. -/
theorem conflict?_unit_eq (exact : journal.Exact) (unit : FunctionalUnit)
    (path : Option CrossPath) :
    journal.occupancy.conflict? (.unit unit path) =
      if unit ∈ journal.units then some (.unitBusy unit)
      else if unit.kind.sharesMoveBudget = true ∧
          journal.occupancy.movesAvailable unit.side = 0 then
        some (.movePressure unit)
      else (path.filter (· ∈ journal.paths)).map .crossPathBusy := by
  simp only [conflict?, pathConflict?, exact.active_iff, exact.filter_taken]
  split
  next noted => rfl
  next fresh =>
    rw [← exact.active_iff, Bool.not_eq_true] at fresh
    simp only [isBusy, fresh, Bool.false_or, Bool.and_eq_true, beq_iff_eq]

private theorem conflict?_move_eq (exact : journal.Exact) (side : Side) (path : Option CrossPath) :
    journal.occupancy.conflict? (.move side path) =
      ((path.filter (· ∈ journal.paths)).map .crossPathBusy).or
        (if journal.occupancy.movesAvailable side = 0 then some (.moveBudget side) else none) := by
  rw [conflict?, pathConflict?, exact.filter_taken]

/-- An exact record is faithful. -/
theorem faithful (exact : journal.Exact) : journal.Faithful where
  units_distinct := exact.distinct
  activeUnits_distinct := nodup_activeUnits _
  activeUnits_order := List.filter_sublist
  mem_activeUnits := exact.mem_activeUnits
  takenPaths_distinct := nodup_takenPaths _
  takenPaths_order := List.filter_sublist
  mem_takenPaths := exact.mem_takenPaths
  movesAvailable := exact.movesAvailable_eq
  isEmpty := exact.isEmpty_iff
  bookUnit := exact.bookUnit_eq
  conflict?_unit := exact.conflict?_unit_eq
  conflict?_move := exact.conflict?_move_eq

end Exact

/-- Whatever has been called, every query is answered from the claims that have been
booked since the last reset. -/
theorem faithful_ofCalls (calls : List Call) : (ofCalls calls).Faithful :=
  (exact_ofCalls calls).faithful

-- A side's budget can be overdrawn, and what is refused takes no path.
example :
    let addition (path : Option CrossPath) : Call := .book (.unit ⟨.l, .a⟩ path)
    let journal := ofCalls
      (.reset :: List.replicate 4 (.book (.move .a none)) ++ [addition none, addition (some .x1)])
    journal.moves .a + journal.sharing .a = 5 ∧ journal.occupancy.movesAvailable .a = 0 ∧
      journal.occupancy.takenPaths = [] :=
  ⟨rfl, rfl, rfl⟩

end Journal

end VliwPack.Occupancy
