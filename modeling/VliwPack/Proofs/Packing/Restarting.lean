import VliwPack.Proofs.Packing.Bundles

/-! # Packing again from a bundle on

Every cycle starts clean, so a schedule can be packed again from any of its bundles on
(`Recognizer.pack_restarts`). The greedy cutting begins anew with each group
(`packets_flatten_drop`), and since instructions that have been resolved resolve to
themselves, they are packed as before they were (`packed_map_resolved`).
-/

namespace VliwPack

open Instruction

variable {width : Nat} {region : List Instruction}

private theorem forall_resolves_map_resolved
    (resolves : ∀ instruction ∈ region, instruction.Resolves) :
    ∀ instruction ∈ region.map resolved, instruction.Resolves := by
  intro instruction member
  obtain ⟨original, among, rfl⟩ := List.mem_map.mp member
  exact (resolves_resolved original).mpr (resolves original among)

/-- A region that resolves is cut greedily into legal packets. -/
theorem packets_eq_greedyCut (resolves : ∀ instruction ∈ region, instruction.Resolves) :
    packets width region = greedyCut (LegalPacket width) region := by
  rw [packets, resolvable_eq_self resolves]

/-- Resolved instructions make the same packets. -/
theorem packets_map_resolved (resolves : ∀ instruction ∈ region, instruction.Resolves) :
    packets width (region.map resolved) = (packets width region).map (List.map resolved) := by
  rw [packets_eq_greedyCut (forall_resolves_map_resolved resolves), packets_eq_greedyCut resolves,
    greedyCut_map (legalPacket_map_resolved width)]

/-- Instructions that have been resolved are packed as they were before. -/
theorem packed_map_resolved (resolves : ∀ instruction ∈ region, instruction.Resolves) :
    packed width (region.map resolved) = packed width region := by
  rw [packed, packets_map_resolved resolves, packed]
  simp [Function.comp_def]

private theorem resolves_of_mem_flatten_drop {instruction : Instruction} {skipped : Nat}
    (resolves : ∀ instruction ∈ region, instruction.Resolves)
    (member : instruction ∈ ((packets width region).drop skipped).flatten) :
    instruction.Resolves := by
  obtain ⟨packet, left, among⟩ := List.mem_flatten.mp member
  have listed : instruction ∈ (packets width region).flatten :=
    List.mem_flatten_of_mem (List.mem_of_mem_drop left) among
  rw [packets_eq_greedyCut resolves, flatten_greedyCut] at listed
  exact resolves instruction listed

/-- The packets from any one on are the packets of the instructions in them. -/
theorem packets_flatten_drop (resolves : ∀ instruction ∈ region, instruction.Resolves)
    (skipped : Nat) :
    packets width ((packets width region).drop skipped).flatten =
      (packets width region).drop skipped := by
  rw [packets_eq_greedyCut fun _ member => resolves_of_mem_flatten_drop resolves member,
    packets_eq_greedyCut resolves, greedyCut_flatten_drop]

/-- The bundles from any one on hold the instructions of the packets, resolved. -/
theorem flatMap_drop_packed (width : Nat) (region : List Instruction) (skipped : Nat) :
    ((packed width region).bundles.drop skipped).flatMap Bundle.instructions =
      ((packets width region).drop skipped).flatten.map resolved := by
  rw [packed, Schedule.ofGroups, Bundle.drop_numbered, List.flatMap_def,
    Bundle.map_instructions_numbered, List.map_flatten, List.map_drop]

namespace Recognizer

/-- When packing a region ends with a number of cycles, the instructions of its bundles
from any one on, as they were pushed, are packed by any packer of the same width into
exactly these bundles, as many cycles earlier as bundles are left out. In particular the
instructions of a whole schedule are packed into that schedule. -/
theorem pack_restarts (positive : 0 < width) (recognizer other : Recognizer) {cycles : Nat}
    (packs : (recognizer.pack width region).outcome = .ok cycles) (skipped : Nat) :
    let schedule := (recognizer.pack width region).schedule
    let again := other.pack width ((schedule.bundles.drop skipped).flatMap Bundle.instructions)
    again.outcome = .ok (cycles - skipped) ∧
      again.schedule.bundles.map (Bundle.delayed skipped) = schedule.bundles.drop skipped ∧
      (other.pack width schedule.instructions).schedule = schedule := by
  obtain ⟨whole, length⟩ := resolvable_and_length_of_pack positive packs
  have resolves : ∀ instruction ∈ region, instruction.Resolves := by
    rw [← whole]
    exact fun _ member => resolves_of_mem_resolvable member
  have left : ∀ instruction ∈ ((packets width region).drop skipped).flatten,
      instruction.Resolves := fun _ member => resolves_of_mem_flatten_drop resolves member
  rw [pack_schedule positive]
  refine ⟨?_, ?_, ?_⟩
  · rw [flatMap_drop_packed,
      pack_outcome_of_resolves positive other (forall_resolves_map_resolved left),
      packets_map_resolved left, packets_flatten_drop resolves, List.length_map, List.length_drop,
      length]
  · rw [flatMap_drop_packed, pack_schedule positive, packed_map_resolved left, packed,
      packets_flatten_drop resolves, packed, Schedule.ofGroups, Schedule.ofGroups,
      Bundle.map_delayed_numbered, Bundle.drop_numbered, List.map_drop]
  · rw [instructions_packed positive, whole, pack_schedule positive, packed_map_resolved resolves]

/-- From its second bundle on, the region is packed again into that bundle. -/
theorem pack_restarts_twoAdditions :
    0 < 4 ∧ (Recognizer.pack {} 4 twoAdditions).outcome = .ok 2 ∧
      let schedule := (Recognizer.pack {} 4 twoAdditions).schedule
      let rest := (schedule.bundles.drop 1).flatMap Bundle.instructions
      rest = [(flexibleAddition .b).resolved] ∧
        (Recognizer.pack {} 4 rest).outcome = .ok 1 ∧
        (Recognizer.pack {} 4 rest).schedule.bundles.map (Bundle.delayed 1) =
          schedule.bundles.drop 1 ∧
        (Recognizer.pack {} 4 schedule.instructions).schedule = schedule := by
  have positive : 0 < 4 := by decide
  have packs : (Recognizer.pack {} 4 twoAdditions).outcome = .ok 2 := rfl
  exact ⟨positive, packs, by decide, pack_restarts positive {} {} packs 1⟩

end Recognizer

end VliwPack
