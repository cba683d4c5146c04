import Mathlib.Order.Bounds.Defs
import VliwPack.Proofs.Packing.Bundles

/-! # No cutting of a region is faster

Packing places each instruction of a region in a cycle that is no later than its group
in any cutting of the region into legal packets, so it takes as few cycles as any. This
rests on what is within a legal packet being one (`legalPacket_hereditary`): then the
greedy cutting is never behind another (`Cutting.groupNumbers_greedyCut_le`).
-/

namespace VliwPack

open Instruction

variable {width : Nat} {region : List Instruction}

/-- The cycles in which a region is placed are the numbers of its packets. -/
theorem placements_packed (width : Nat) (region : List Instruction) :
    (packed width region).placements = groupNumbers 0 (packets width region) := by
  rw [packed, Schedule.placements_ofGroups, groupNumbers_map]

/-- Where the instructions that take a slot resolve, all do. -/
theorem resolves_of_slots_resolve
    (resolves : ∀ instruction ∈ region,
      instruction.descriptor.isPseudo = false → instruction.Resolves) :
    ∀ instruction ∈ region, instruction.Resolves := by
  intro instruction member
  cases pseudo : instruction.descriptor.isPseudo with
  | false => exact resolves instruction member pseudo
  | true => exact ⟨.pseudo, claim_of_isPseudo pseudo⟩

namespace Recognizer

/-- If the instructions of a region that take a slot resolve, packing the region ends
with a number of cycles and places every instruction. However the region is cut into
legal packets, no instruction is placed in a cycle later than its packet, and no cutting
has fewer packets than packing takes cycles. -/
theorem pack_optimal (positive : 0 < width) (recognizer : Recognizer)
    (resolves : ∀ instruction ∈ region,
      instruction.descriptor.isPseudo = false → instruction.Resolves) :
    ∃ cycles, (recognizer.pack width region).outcome = .ok cycles ∧
      (recognizer.pack width region).schedule.instructions = region.map resolved ∧
      (∀ groups, Cutting (LegalPacket width) region groups →
        List.Forall₂ (· ≤ ·) (recognizer.pack width region).schedule.placements
          (groupNumbers 0 groups)) ∧
      IsLeast {count | ∃ groups, Cutting (LegalPacket width) region groups ∧
        groups.length = count} cycles := by
  have all := resolves_of_slots_resolve resolves
  have whole : resolvable region = region := resolvable_eq_self all
  have single : ∀ instruction ∈ region, LegalPacket width [instruction] :=
    fun instruction member => legalPacket_singleton positive (all instruction member)
  obtain ⟨claims, read⟩ := mapM_claim_of_resolves all
  refine ⟨(packets width region).length, ?_, ?_, ?_, ⟨packets width region, ?_, rfl⟩, ?_⟩
  · rw [pack_outcome positive, read]
    rfl
  · rw [pack_schedule positive, instructions_packed positive, whole]
  · intro groups cutting
    rw [pack_schedule positive, placements_packed, packets, whole]
    exact cutting.groupNumbers_greedyCut_le (legalPacket_hereditary width)
  · have cutting := cutting_packets positive region
    rwa [whole] at cutting
  · rintro count ⟨groups, cutting, rfl⟩
    rw [packets, whole]
    exact cutting.length_greedyCut_le (legalPacket_hereditary width) single

/-- No cutting has fewer than two packets, since both additions need one unit. -/
theorem pack_optimal_twoAdditions :
    0 < 4 ∧ (∀ instruction ∈ twoAdditions,
        instruction.descriptor.isPseudo = false → instruction.Resolves) ∧
      IsLeast {count | ∃ groups, Cutting (LegalPacket 4) twoAdditions groups ∧
        groups.length = count} 2 := by
  have resolves : ∀ instruction ∈ twoAdditions,
      instruction.descriptor.isPseudo = false → instruction.Resolves := by decide
  have positive : 0 < 4 := by decide
  obtain ⟨cycles, outcome, _, _, least⟩ := pack_optimal positive {} resolves
  have two : (Recognizer.pack {} 4 twoAdditions).outcome = .ok 2 := rfl
  rw [two] at outcome
  cases outcome
  exact ⟨positive, resolves, least⟩

end Recognizer

end VliwPack
