import VliwPack.Proofs.Packing.Correspondence
import VliwPack.Proofs.Packing.Region
import VliwPack.Proofs.Symmetry.Resolution

/-! # Packing on the other side

Packing a region with its sides exchanged goes in lockstep with packing it
(`Correspondence.swapSides`): bundles are begun in the same cycles, the instruction at each
position goes into the same bundle, and what is counted for a cross path is counted for
the opposite one (`sides_symmetric`).
-/

namespace VliwPack

open Instruction

/-- Packing with the sides exchanged goes in lockstep with packing. -/
def Correspondence.swapSides : Correspondence where
  recognizer := Recognizer.swapSides
  claim := Claim.swapSides
  conflict := Conflict.swapSides
  pushed := counterpart
  Compared first second := second = first.swapSides
  isPseudo_eq same := congrArg (·.descriptor.isPseudo) same
  claim_eq same := by
    rw [same, claim_swapSides]
  resolved_eq same resolves := by
    rw [same, resolved_swapSides_of_resolves _ resolves]
  conflict?_eq one checked := one.occupancy.conflict?_swapSides checked
  counted_eq one found :=
    congrArg (Recognizer.mk one.occupancy.swapSides) (one.stats.swapSides_countConflict found)
  booked_eq one made :=
    congrArg₂ Recognizer.mk (one.occupancy.swapSides_add made)
      (one.stats.swapSides_countClaim made)
  advanced_eq _ := rfl
  countBundle_eq _ := rfl

/-- As much of a region is resolvable on the other side. -/
theorem resolvable_map_swapSides (region : List Instruction) :
    resolvable (region.map swapSides) = (resolvable region).map swapSides := by
  unfold resolvable
  rw [List.takeWhile_map]
  congr 2
  funext instruction
  exact decide_eq_decide.mpr instruction.resolves_swapSides

/-- The two sides are alike. On the other side an instruction has the claim there or the
same fault, and what it leaves behind differs by the side, and by the path bit if one is
written in a load or store. A region with its sides exchanged is packed with the same
outcome; each instruction is pushed at the same place among the bundles begun; and the
statistics differ by which cross path of a kind is which. -/
theorem sides_symmetric :
    (∀ instruction : Instruction,
      instruction.swapSides.claim = instruction.claim.map Claim.swapSides ∧
        instruction.swapSides.resolved =
          if instruction.writesPathBit && instruction.descriptor.isMemoryAccess then
            instruction.resolved.swapSides.withOppositePathBit
          else instruction.resolved.swapSides) ∧
      ∀ (width : Nat) (region : List Instruction),
        let here := Recognizer.pack {} width region
        let there := Recognizer.pack {} width (region.map swapSides)
        there.outcome = here.outcome ∧
          there.calls = here.calls.map (BundleCall.map counterpart) ∧
          here.calls.filterMap BundleCall.pushed? = (resolvable region).map resolved ∧
          there.calls.filterMap BundleCall.pushed? =
            ((resolvable region).map swapSides).map resolved ∧
          there.recognizer.stats = here.recognizer.stats.swapSides := by
  refine ⟨claim_and_resolved_swapSides, fun width region => ?_⟩
  have compared : List.Forall₂ Correspondence.swapSides.Compared region
      (region.map swapSides) :=
    List.forall₂_map_right_iff.mpr (List.forall₂_same.mpr fun _ _ => rfl)
  have start : Recognizer.reset {} = Correspondence.swapSides.recognizer (Recognizer.reset {}) :=
    rfl
  have corresponds := Correspondence.swapSides.pack_eq compared width start
  refine ⟨corresponds.outcome, corresponds.calls, Packing.pushed_run _ width region, ?_, ?_⟩
  · rw [← resolvable_map_swapSides]
    exact Packing.pushed_run _ width (region.map swapSides)
  · rw [corresponds.recognizer]
    rfl

end VliwPack
