import VliwPack.Proofs.Cycle.Booking
import VliwPack.Proofs.Cycle.Legality

/-! # The occupancy of a cycle is a ledger of its claims

`Occupancy.ofClaims` is the occupancy of a cycle in which given claims have been
booked, and one more booking extends the ledger (`ofClaims_append_singleton`). Over
distinct units, what a side's moves and active units draw on its budget is what the ledger
says (`moves_add_activeSharing_ofClaims`), so the check of one more claim against
legal ones decides whether all of them are legal together
(`conflict?_ofClaims_eq_none_iff`).
-/

namespace VliwPack.Occupancy

open Claim

section Listing

variable (occupancy : Occupancy)

/-- No active unit is listed twice. -/
theorem nodup_activeUnits : occupancy.activeUnits.Nodup :=
  List.Nodup.filter _ (by decide : FunctionalUnit.allBySide.Nodup)

/-- The active units are listed. -/
theorem mem_activeUnits (unit : FunctionalUnit) :
    unit ∈ occupancy.activeUnits ↔ occupancy.active unit = true := by
  rw [activeUnits, List.mem_filter]
  exact and_iff_right (FunctionalUnit.mem_allBySide unit)

/-- No taken path is listed twice. -/
theorem nodup_takenPaths : occupancy.takenPaths.Nodup :=
  List.Nodup.filter _ (by decide : CrossPath.all.Nodup)

/-- The taken paths are listed. -/
theorem mem_takenPaths (path : CrossPath) :
    path ∈ occupancy.takenPaths ↔ occupancy.taken path = true := by
  rw [takenPaths, List.mem_filter]
  exact and_iff_right (CrossPath.mem_all path)

end Listing

/-- The occupancy of a cycle in which the claims have been booked. -/
def ofClaims (claims : List Claim) : Occupancy where
  active unit := decide (unit ∈ claims.filterMap unit?)
  taken path := decide (path ∈ claims.filterMap path?)
  moves side := (claims.filterMap moveSide?).count side

variable {claims : List Claim} {claim : Claim}

/-- A unit is active exactly if it is claimed. -/
@[simp] theorem active_ofClaims (claims : List Claim) (unit : FunctionalUnit) :
    (ofClaims claims).active unit = true ↔ unit ∈ claims.filterMap unit? :=
  decide_eq_true_iff

/-- A path is taken exactly if it is claimed. -/
@[simp] theorem taken_ofClaims (claims : List Claim) (path : CrossPath) :
    (ofClaims claims).taken path = true ↔ path ∈ claims.filterMap path? :=
  decide_eq_true_iff

/-- Without claims the cycle is empty. -/
theorem ofClaims_nil : ofClaims [] = empty := by
  simp [ofClaims, empty]

/-- One more claim is added to the occupancy. -/
theorem ofClaims_append_singleton (claims : List Claim) (claim : Claim) :
    ofClaims (claims ++ [claim]) = (ofClaims claims).add claim := by
  unfold ofClaims add
  congr 1
  · funext other
    rw [Bool.eq_iff_iff]
    cases claimed : claim.unit? <;> simp [claimed, eq_comm (a := other)]
  · funext other
    rw [Bool.eq_iff_iff]
    cases claimed : claim.path? <;> simp [claimed, eq_comm (a := other)]
  · funext side
    cases claimed : claim.moveSide? <;> simp [claimed, List.count_singleton]

/-- The order in which claims have been booked leaves no mark. -/
theorem ofClaims_perm {other : List Claim} (permuted : claims.Perm other) :
    ofClaims claims = ofClaims other := by
  unfold ofClaims
  congr 1
  · funext unit
    exact decide_eq_decide.mpr (permuted.filterMap unit?).mem_iff
  · funext path
    exact decide_eq_decide.mpr (permuted.filterMap path?).mem_iff
  · funext side
    exact (permuted.filterMap moveSide?).count_eq side

/-- The active units are those claimed, side by side. -/
theorem activeUnits_ofClaims_perm (distinct : (claims.filterMap unit?).Nodup) :
    (ofClaims claims).activeUnits.Perm (claims.filterMap unit?) := by
  rw [List.perm_ext_iff_of_nodup (nodup_activeUnits _) distinct]
  intro unit
  rw [mem_activeUnits, active_ofClaims]

/-- The paths taken are those claimed, in index order. -/
theorem takenPaths_ofClaims_perm (distinct : (claims.filterMap path?).Nodup) :
    (ofClaims claims).takenPaths.Perm (claims.filterMap path?) := by
  rw [List.perm_ext_iff_of_nodup (nodup_takenPaths _) distinct]
  intro path
  rw [mem_takenPaths, taken_ofClaims]

/-! ### The budget of a side -/

/-- One more unit among the active ones shares the slots of its side if its kind
does. -/
private theorem countP_kinds_cons {unit : FunctionalUnit} {units : List FunctionalUnit}
    (fresh : unit ∉ units) (side : Side) :
    UnitKind.all.countP
        (fun kind => kind.sharesMoveBudget && decide (⟨kind, side⟩ ∈ unit :: units)) =
      UnitKind.all.countP (fun kind => kind.sharesMoveBudget && decide (⟨kind, side⟩ ∈ units)) +
        if unit.kind.sharesMoveBudget && unit.side == side then 1 else 0 := by
  obtain ⟨kind, own⟩ := unit
  by_cases same : own = side
  · subst same
    cases kind <;> simp [UnitKind.all, UnitKind.sharesMoveBudget, List.countP_cons, fresh] <;> omega
  · have other (kind' : UnitKind) : (⟨kind', side⟩ : FunctionalUnit) ≠ ⟨kind, own⟩ := by
      rintro ⟨⟩
      exact same rfl
    simp [same, other]

/-- Counting a side's kinds with an active unit counts the active units. -/
private theorem countP_kinds_eq {units : List FunctionalUnit} (distinct : units.Nodup)
    (side : Side) :
    UnitKind.all.countP (fun kind => kind.sharesMoveBudget && decide (⟨kind, side⟩ ∈ units)) =
      units.countP fun unit => unit.kind.sharesMoveBudget && unit.side == side := by
  induction units with
  | nil => simp
  | cons unit rest ih =>
      obtain ⟨fresh, distinct⟩ := List.nodup_cons.mp distinct
      rw [countP_kinds_cons fresh, ih distinct, List.countP_cons]

/-- What draws on a side's budget is a move to the side or a unit of it that shares
its slot with moves. -/
private theorem count_budgetSide? (claims : List Claim) (side : Side) :
    (claims.filterMap budgetSide?).count side =
      (claims.filterMap moveSide?).count side +
        (claims.filterMap unit?).countP fun unit =>
          unit.kind.sharesMoveBudget && unit.side == side := by
  induction claims with
  | nil => rfl
  | cons claim rest ih =>
      cases claim with
      | pseudo => simpa [List.filterMap_cons, budgetSide?, moveSide?, unit?] using ih
      | move other path =>
          simp only [List.filterMap_cons, budgetSide?, moveSide?, unit?, List.count_cons, ih]
          omega
      | unit claimed path =>
          simp only [List.filterMap_cons, budgetSide?, moveSide?, unit?, List.countP_cons]
          cases shares : claimed.kind.sharesMoveBudget with
          | false => simpa [shares] using ih
          | true =>
              simp only [↓reduceIte, List.count_cons, Bool.true_and, ih]
              omega

/-- Over distinct units, the units of a side that share its slots with moves are those
booked. -/
theorem activeSharing_ofClaims (distinct : (claims.filterMap unit?).Nodup) (side : Side) :
    (ofClaims claims).activeSharing side =
      (claims.filterMap unit?).countP fun unit =>
        unit.kind.sharesMoveBudget && unit.side == side :=
  countP_kinds_eq distinct side

/-- Over distinct units, a side's moves and active units draw on its budget what the
ledger says. -/
theorem moves_add_activeSharing_ofClaims (distinct : (claims.filterMap unit?).Nodup)
    (side : Side) :
    (ofClaims claims).moves side + (ofClaims claims).activeSharing side =
      (claims.filterMap budgetSide?).count side := by
  rw [count_budgetSide?, activeSharing_ofClaims distinct]
  rfl

/-- What is left of a side's budget is what no claim draws on. -/
theorem movesAvailable_ofClaims (distinct : (claims.filterMap unit?).Nodup) (side : Side) :
    (ofClaims claims).movesAvailable side =
      Machine.moveBudget - (claims.filterMap budgetSide?).count side := by
  rw [movesAvailable, moves_add_activeSharing_ofClaims distinct]

/-! ### Checking one more claim -/

/-- A path fits if it is not taken. -/
theorem pathConflict?_ofClaims_eq_none_iff (claims : List Claim) (path : Option CrossPath) :
    (ofClaims claims).pathConflict? path = none ↔
      ∀ other, path = some other → other ∉ claims.filterMap path? := by
  simp only [pathConflict?_eq_none_iff, ← taken_ofClaims, Bool.not_eq_true]

/-- A claim fits the cycle of legal ones if they are legal together. -/
theorem conflict?_ofClaims_eq_none_iff (legal : Legal claims) :
    (ofClaims claims).conflict? claim = none ↔ Legal (claims ++ [claim]) := by
  have idle (unit : FunctionalUnit) : (ofClaims claims).active unit = false ↔
      unit ∉ claims.filterMap unit? := decide_eq_false_iff_not
  have left (side : Side) : (ofClaims claims).movesAvailable side ≠ 0 ↔
      (claims.filterMap budgetSide?).count side < Machine.moveBudget := by
    rw [movesAvailable_ofClaims legal.units]
    omega
  rw [legal.append_singleton_iff]
  cases claim with
  | pseudo => simp [conflict?, unit?, path?, budgetSide?]
  | unit claimed path =>
      rw [conflict?_unit_eq_none_iff, idle, left, pathConflict?_ofClaims_eq_none_iff]
      cases shares : claimed.kind.sharesMoveBudget <;>
        simp [unit?, path?, budgetSide?, shares, and_comm]
  | move side path =>
      rw [conflict?_move_eq_none_iff, left, pathConflict?_ofClaims_eq_none_iff]
      simp [unit?, path?, budgetSide?]

end VliwPack.Occupancy
