import VliwPack.Occupancy

/-! # Booking and checking a claim

`Occupancy.add` is the occupancy after a booking. Booking is refused when the unit
claimed has issued, and gives that occupancy otherwise (`book_eq_ok_add`,
`book_eq_error`). Checking is stricter: a claim without a conflict can be booked
(`book_of_conflict?_eq_none`), and every claim fits an empty cycle
(`conflict?_empty`).
-/

namespace VliwPack

/-- The side of whose moves the claim is one. -/
def Claim.moveSide? : Claim → Option Side
  | move side _ => some side
  | pseudo | unit _ _ => none

namespace Occupancy

open Claim

variable {occupancy : Occupancy} {claim : Claim}

/-- The occupancy in which the claim's unit, path and move are taken as well. -/
def add (occupancy : Occupancy) (claim : Claim) : Occupancy where
  active other := occupancy.active other || claim.unit? == some other
  taken other := occupancy.taken other || claim.path? == some other
  moves side := occupancy.moves side + if claim.moveSide? = some side then 1 else 0

/-- A claim on an idle unit, or on none, is booked. -/
theorem book_eq_ok_add (idle : ∀ unit, claim.unit? = some unit → occupancy.active unit = false) :
    occupancy.book claim = .ok (occupancy.add claim) := by
  cases claim with
  | pseudo => simp [book, add, unit?, path?, moveSide?]
  | unit claimed path =>
      have idle : occupancy.active claimed = false := idle claimed rfl
      simp [book, bookUnit, takePath, add, idle, unit?, path?, moveSide?, Bool.beq_comm]
  | move side path =>
      simp [book, bookMove, takePath, add, unit?, path?, moveSide?, eq_comm]

/-- A claim on a unit that has issued is refused. -/
theorem book_eq_error {unit : FunctionalUnit} (claimed : claim.unit? = some unit)
    (active : occupancy.active unit = true) :
    occupancy.book claim = .error (.bookedTwice unit) := by
  cases claim <;> simp only [unit?, reduceCtorEq, Option.some.injEq] at claimed
  subst claimed
  rw [book, bookUnit, if_pos active]

/-- What a booking leaves is the occupancy with the claim added. -/
theorem eq_add_of_book {next : Occupancy} (booked : occupancy.book claim = .ok next) :
    next = occupancy.add claim := by
  by_cases refused : ∃ unit, claim.unit? = some unit ∧ occupancy.active unit = true
  · obtain ⟨unit, claimed, active⟩ := refused
    rw [book_eq_error claimed active] at booked
    cases booked
  · have idle : ∀ unit, claim.unit? = some unit → occupancy.active unit = false :=
      fun unit claimed => Bool.eq_false_iff.mpr fun active => refused ⟨unit, claimed, active⟩
    rw [book_eq_ok_add idle] at booked
    exact (Except.ok.inj booked).symm

/-- A path fits if it is not taken. -/
theorem pathConflict?_eq_none_iff (occupancy : Occupancy) (path : Option CrossPath) :
    occupancy.pathConflict? path = none ↔
      ∀ other, path = some other → occupancy.taken other = false := by
  cases path <;> simp [pathConflict?]

/-- A unit fits if it is idle, not under pressure from moves, and its path is free. -/
theorem conflict?_unit_eq_none_iff (occupancy : Occupancy) (unit : FunctionalUnit)
    (path : Option CrossPath) :
    occupancy.conflict? (.unit unit path) = none ↔
      occupancy.active unit = false ∧
        (unit.kind.sharesMoveBudget = true → occupancy.movesAvailable unit.side ≠ 0) ∧
          occupancy.pathConflict? path = none := by
  cases active : occupancy.active unit <;> cases shares : unit.kind.sharesMoveBudget <;>
    by_cases used : occupancy.movesAvailable unit.side = 0 <;>
    simp [conflict?, isBusy, active, shares, used]

/-- A move fits if its path is free and its side has budget left. -/
theorem conflict?_move_eq_none_iff (occupancy : Occupancy) (side : Side)
    (path : Option CrossPath) :
    occupancy.conflict? (.move side path) = none ↔
      occupancy.pathConflict? path = none ∧ occupancy.movesAvailable side ≠ 0 := by
  simp [conflict?]

/-- A claim without a conflict can be booked. -/
theorem book_of_conflict?_eq_none (fits : occupancy.conflict? claim = none) :
    occupancy.book claim = .ok (occupancy.add claim) := by
  apply book_eq_ok_add
  intro unit claimed
  cases claim <;> simp only [unit?, reduceCtorEq, Option.some.injEq] at claimed
  subst claimed
  exact ((conflict?_unit_eq_none_iff occupancy _ _).mp fits).1

/-- Every claim fits an empty cycle. -/
@[simp] theorem conflict?_empty (claim : Claim) : empty.conflict? claim = none := by
  have free (path : Option CrossPath) : empty.pathConflict? path = none :=
    (pathConflict?_eq_none_iff _ _).mpr fun _ _ => rfl
  have available (side : Side) : empty.movesAvailable side ≠ 0 := by
    simp [movesAvailable, activeSharing, empty, Machine.moveBudget, Machine.unitsPerSide,
      UnitKind.all]
  cases claim with
  | pseudo => rfl
  | unit unit path =>
      exact (conflict?_unit_eq_none_iff _ _ _).mpr ⟨rfl, fun _ => available _, free path⟩
  | move side path => exact (conflict?_move_eq_none_iff _ _ _).mpr ⟨free path, available side⟩

end Occupancy

end VliwPack
