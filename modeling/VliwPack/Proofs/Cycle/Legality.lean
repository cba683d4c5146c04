import Mathlib.Data.List.Nodup
import Mathlib.Data.List.Pairwise
import Mathlib.Data.List.Perm.Subperm
import VliwPack.Claim

/-! # Claims that can issue together

Whether one more claim can issue with legal ones is a question about that claim
alone (`Legal.append_singleton_iff`). Claims among legal ones are legal
(`Legal.sublist`), a single claim always is (`legal_singleton`), and legal claims
number at most as many as there are functional units, those of pseudo instructions
apart (`Legal.countP_le`).
-/

namespace VliwPack.Claim

variable {claims : List Claim} {claim : Claim}

instance (claims : List Claim) : Decidable (Legal claims) :=
  decidable_of_iff
    ((claims.filterMap unit?).Nodup ∧ (claims.filterMap path?).Nodup ∧
      ∀ side ∈ Side.all, (claims.filterMap budgetSide?).count side ≤ Machine.moveBudget)
    ⟨fun ⟨units, paths, budget⟩ => ⟨units, paths, fun side => budget side side.mem_all⟩,
      fun legal => ⟨legal.units, legal.paths, fun side _ => legal.budget side⟩⟩

/-- No claims are legal. -/
theorem legal_nil : Legal [] where
  units := List.nodup_nil
  paths := List.nodup_nil
  budget _ := Nat.zero_le _

/-- One more claim names its resource for the first time or repeats one. -/
theorem nodup_filterMap_append_singleton {α : Type} {resource? : Claim → Option α}
    (nodup : (claims.filterMap resource?).Nodup) :
    ((claims ++ [claim]).filterMap resource?).Nodup ↔
      ∀ resource, resource? claim = some resource → resource ∉ claims.filterMap resource? := by
  rw [List.filterMap_append]
  cases named : resource? claim with
  | none => simp [named, nodup]
  | some resource =>
      simp only [List.filterMap_cons, named, List.filterMap_nil, Option.some.injEq, forall_eq']
      rw [← List.concat_eq_append, List.nodup_concat]
      exact and_iff_left nodup

/-- A claim can join legal ones if its unit and its path are free and its side has
budget left. -/
theorem Legal.append_singleton_iff (legal : Legal claims) :
    Legal (claims ++ [claim]) ↔
      (∀ unit, claim.unit? = some unit → unit ∉ claims.filterMap unit?) ∧
        (∀ path, claim.path? = some path → path ∉ claims.filterMap path?) ∧
          ∀ side, claim.budgetSide? = some side →
            (claims.filterMap budgetSide?).count side < Machine.moveBudget := by
  have budget (side : Side) :
      ((claims ++ [claim]).filterMap budgetSide?).count side =
        (claims.filterMap budgetSide?).count side +
          if claim.budgetSide? = some side then 1 else 0 := by
    rw [List.filterMap_append, List.count_append]
    cases drawn : claim.budgetSide? with
    | none => simp [drawn]
    | some other => simp [drawn, List.count_singleton]
  constructor
  · intro whole
    refine ⟨(nodup_filterMap_append_singleton legal.units).mp whole.units,
      (nodup_filterMap_append_singleton legal.paths).mp whole.paths, ?_⟩
    intro side drawn
    have bound := whole.budget side
    rw [budget, if_pos drawn] at bound
    exact bound
  · rintro ⟨freeUnit, freePath, left⟩
    refine ⟨(nodup_filterMap_append_singleton legal.units).mpr freeUnit,
      (nodup_filterMap_append_singleton legal.paths).mpr freePath, ?_⟩
    intro side
    rw [budget]
    split
    next drawn => exact left side drawn
    next => exact legal.budget side

/-- Claims among legal ones are legal. -/
theorem Legal.sublist {kept : List Claim} (legal : Legal claims) (among : kept.Sublist claims) :
    Legal kept where
  units := legal.units.sublist (among.filterMap unit?)
  paths := legal.paths.sublist (among.filterMap path?)
  budget side := Nat.le_trans ((among.filterMap budgetSide?).count_le side) (legal.budget side)

/-- Of legal claims, only one names a given cross path. -/
theorem Legal.eq_of_path (legal : Legal claims) {first second : Claim} {path : CrossPath}
    (here : first ∈ claims) (there : second ∈ claims) (named : first.path? = some path)
    (again : second.path? = some path) : first = second := by
  have apart := List.pairwise_filterMap.mp legal.paths
  have symmetric : Std.Symm fun one other : Claim =>
      ∀ path, one.path? = some path → ∀ path', other.path? = some path' → path ≠ path' :=
    ⟨fun _ _ differ path named path' named' => (differ path' named' path named).symm⟩
  by_contra different
  exact apart.forall here there different path named path again rfl

/-- Claims are legal in any order. -/
theorem legal_perm {other : List Claim} (permuted : claims.Perm other) :
    Legal claims ↔ Legal other := by
  have units := (permuted.filterMap unit?).nodup_iff
  have paths := (permuted.filterMap path?).nodup_iff
  have budget (side : Side) := (permuted.filterMap budgetSide?).count_eq side
  constructor
  · intro legal
    exact ⟨units.mp legal.units, paths.mp legal.paths, fun side => budget side ▸ legal.budget side⟩
  · intro legal
    refine ⟨units.mpr legal.units, paths.mpr legal.paths, fun side => ?_⟩
    rw [budget]
    exact legal.budget side

/-- Every claim fits an empty cycle. -/
theorem legal_singleton (claim : Claim) : Legal [claim] := by
  refine legal_nil.append_singleton_iff.mpr ⟨?_, ?_, ?_⟩
  · simp
  · simp
  · intro side _
    exact Nat.zero_lt_succ _

/-! ### The number of claims -/

/-- A claim that is not of a pseudo instruction draws on a move budget or is one on
a multiplier. -/
private theorem countP_eq_budget_add_multipliers (claims : List Claim) :
    claims.countP (· != pseudo) =
      (claims.filterMap budgetSide?).length +
        (claims.filterMap unit?).countP fun unit => !unit.kind.sharesMoveBudget := by
  induction claims with
  | nil => rfl
  | cons claim rest ih =>
      cases claim with
      | pseudo => simpa [List.filterMap_cons, budgetSide?, unit?] using ih
      | move side path => simp [List.filterMap_cons, budgetSide?, unit?, ih]; omega
      | unit claimed path =>
          cases shares : claimed.kind.sharesMoveBudget <;>
            simp [budgetSide?, unit?, shares, ih] <;> omega

private theorem length_eq_count_add_count (sides : List Side) :
    sides.length = sides.count .a + sides.count .b := by
  induction sides with
  | nil => rfl
  | cons side rest ih => cases side <;> simp [ih] <;> omega

/-- Distinct units hold at most one multiplier a side. -/
private theorem countP_multipliers_le {units : List FunctionalUnit} (nodup : units.Nodup) :
    units.countP (fun unit => !unit.kind.sharesMoveBudget) ≤ Machine.sides := by
  rw [List.countP_eq_length_filter]
  have among : (units.filter fun unit => !unit.kind.sharesMoveBudget) ⊆
      Side.all.map fun side => ⟨.m, side⟩ := by
    intro unit member
    obtain ⟨kind, side⟩ := unit
    cases kind <;> simp [UnitKind.sharesMoveBudget, Side.mem_all] at member ⊢
  simpa [Machine.sides] using ((nodup.filter _).subperm among).length_le

/-- No more instructions can issue together than there are functional units. -/
theorem Legal.countP_le (legal : Legal claims) :
    claims.countP (· != pseudo) ≤ Machine.maxIssueWidth := by
  -- Two sides' budgets and one multiplier a side are as many as the units of the machine.
  have sideA := legal.budget .a
  have sideB := legal.budget .b
  have multipliers := countP_multipliers_le legal.units
  have total : Machine.moveBudget + Machine.moveBudget + Machine.sides =
      Machine.maxIssueWidth := rfl
  rw [countP_eq_budget_add_multipliers, length_eq_count_add_count]
  omega

end VliwPack.Claim
