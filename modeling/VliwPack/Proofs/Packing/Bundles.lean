import VliwPack.Proofs.Packing.Region
import VliwPack.Proofs.Resolution.Faults

/-! # The bundles of a region

Every bundle that packing announces is a legal packet, also when packing stops at a
fault, and no unit is ever booked twice. When packing succeeds, its bundles hold the
instructions of the region in order, nothing changed but path bits, in successive cycles
that each have an instruction. Both follow from what the schedule of a region's packets
holds (`legalPacket_of_mem_packed`, `instructions_packed`).
-/

namespace VliwPack

open Instruction

variable {width : Nat} {region : List Instruction}

/-! ### What a schedule of packets holds -/

/-- Packing makes legal packets. -/
theorem legalPacket_of_mem_packed (positive : 0 < width) {bundle : Bundle}
    (member : bundle ∈ (packed width region).bundles) : LegalPacket width bundle.instructions := by
  obtain ⟨packet, among, written⟩ := List.mem_map.mp (Schedule.mem_ofGroups _ member)
  rw [← written, legalPacket_map_resolved]
  exact (cutting_packets positive region).fit packet among

private theorem nonempty_of_mem_packed (positive : 0 < width) {bundle : Bundle}
    (member : bundle ∈ (packed width region).bundles) : bundle.instructions ≠ [] := by
  obtain ⟨packet, among, written⟩ := List.mem_map.mp (Schedule.mem_ofGroups _ member)
  rw [← written, ne_eq, List.map_eq_nil_iff]
  exact (cutting_packets positive region).nonempty packet among

/-- The instructions of a bundle have been resolved. -/
theorem resolved_of_mem_packed {bundle : Bundle} (member : bundle ∈ (packed width region).bundles) :
    ∀ instruction ∈ bundle.instructions, instruction.resolved = instruction := by
  intro instruction among
  obtain ⟨packet, -, written⟩ := List.mem_map.mp (Schedule.mem_ofGroups _ member)
  rw [← written] at among
  obtain ⟨original, -, rfl⟩ := List.mem_map.mp among
  exact resolved_resolved original

/-- Packing keeps the instructions that resolve, up to the first that does not. -/
theorem instructions_packed (positive : 0 < width) :
    (packed width region).instructions = (resolvable region).map resolved := by
  rw [packed, Schedule.instructions_ofGroups, ← List.map_flatten,
    (cutting_packets positive region).covers]

/-- What holds of the instructions of a region and is not lost by resolving them holds of the
instructions of its bundles. -/
theorem forall_of_mem_packed {holds : Instruction → Prop} (positive : 0 < width)
    (all : ∀ instruction ∈ region, holds instruction)
    (kept : ∀ instruction, holds instruction → holds instruction.resolved) :
    ∀ bundle ∈ (packed width region).bundles, ∀ instruction ∈ bundle.instructions,
      holds instruction := by
  intro bundle member instruction among
  have listed : instruction ∈ (packed width region).instructions :=
    List.mem_flatMap.mpr ⟨bundle, member, among⟩
  rw [instructions_packed positive] at listed
  obtain ⟨original, resolvable, rfl⟩ := List.mem_map.mp listed
  exact kept original (all original ((List.takeWhile_sublist _).subset resolvable))

/-- A packet after the first begins with an instruction that takes a slot, since the
packets before it could have taken a pseudo instruction. -/
theorem exists_first_of_mem_tail_packets (positive : 0 < width) {packet : List Instruction}
    (later : packet ∈ (packets width region).tail) :
    ∃ first rest, packet = first :: rest ∧ first.takesSlot = true := by
  have single : ∀ instruction ∈ resolvable region, LegalPacket width [instruction] :=
    fun _ member => legalPacket_singleton positive (resolves_of_mem_resolvable member)
  obtain ⟨previous, first, rest, begins, legal, refused⟩ :=
    exists_first_of_mem_tail_greedyCut single later
  refine ⟨first, rest, begins, ?_⟩
  cases slot : first.takesSlot with
  | true => rfl
  | false => exact absurd (legal.append_pseudo slot) refused

/-- A bundle after the first begins with an instruction that takes a slot. -/
theorem exists_first_of_mem_tail_packed (positive : 0 < width) {bundle : Bundle}
    (member : bundle ∈ (packed width region).bundles.tail) :
    ∃ first rest, bundle.instructions = first :: rest ∧ first.descriptor.isPseudo = false := by
  have among : bundle.instructions ∈ ((packets width region).map (List.map resolved)).tail := by
    rw [← Bundle.map_instructions_numbered 0 ((packets width region).map (List.map resolved)),
      ← List.map_tail]
    exact List.mem_map_of_mem member
  rw [← List.map_tail] at among
  obtain ⟨packet, later, written⟩ := List.mem_map.mp among
  obtain ⟨first, rest, begins, slot⟩ := exists_first_of_mem_tail_packets positive later
  refine ⟨first.resolved, rest.map resolved, ?_, ?_⟩
  · rw [← written, begins, List.map_cons]
  · rw [descriptor_resolved]
    simpa [takesSlot] using slot

/-- Where some instruction takes a slot, every packet has one that does: a first packet
without one could be merged with the next, and no cutting has fewer packets. -/
theorem exists_slot_of_mem_packets (positive : 0 < width)
    (some : ∃ instruction ∈ resolvable region, instruction.takesSlot = true)
    {packet : List Instruction} (member : packet ∈ packets width region) :
    ∃ instruction ∈ packet, instruction.takesSlot = true := by
  by_contra none
  have pseudo : ∀ instruction ∈ packet, instruction.takesSlot = false := by
    simpa using none
  have cutting := cutting_packets positive region
  have later (among : packet ∈ (packets width region).tail) : False := by
    obtain ⟨first, rest, rfl, slot⟩ := exists_first_of_mem_tail_packets positive among
    exact none ⟨first, List.mem_cons_self, slot⟩
  cases cut : packets width region with
  | nil =>
      rw [cut] at member
      cases member
  | cons head tail =>
      rw [cut] at member cutting later
      rcases List.mem_cons.mp member with rfl | among
      · cases tail with
        | nil =>
            have covers := cutting.covers
            rw [List.flatten_singleton] at covers
            rw [← covers] at some
            exact none some
        | cons next rest =>
            obtain ⟨-, -, remaining⟩ := cutting.of_cons
            have merged : LegalPacket width (packet ++ next) :=
              ((remaining.fit next List.mem_cons_self).append_pseudos pseudo).perm
                List.perm_append_comm
            have shorter :
                Cutting (LegalPacket width) (resolvable region) ((packet ++ next) :: rest) := by
              obtain ⟨-, nonempty⟩ := List.forall_mem_cons.mp remaining.nonempty
              obtain ⟨-, fit⟩ := List.forall_mem_cons.mp remaining.fit
              refine ⟨?_, ?_, List.forall_mem_cons.mpr ⟨merged, fit⟩⟩
              · rw [← cutting.covers]
                simp
              · refine List.forall_mem_cons.mpr ⟨?_, nonempty⟩
                simp [remaining.nonempty next List.mem_cons_self]
            have bound := shorter.length_greedyCut_le (legalPacket_hereditary width)
              fun _ listed => legalPacket_singleton positive (resolves_of_mem_resolvable listed)
            rw [← packets, cut, List.length_cons, List.length_cons, List.length_cons] at bound
            omega
      · exact later among

/-- Where some instruction takes a slot, every bundle issues one. -/
theorem issued_ne_nil_of_mem_packed (positive : 0 < width)
    (some : ∃ instruction ∈ resolvable region, instruction.takesSlot = true) {bundle : Bundle}
    (member : bundle ∈ (packed width region).bundles) : bundle.issued ≠ [] := by
  obtain ⟨packet, among, written⟩ := List.mem_map.mp (Schedule.mem_ofGroups _ member)
  obtain ⟨instruction, listed, slot⟩ := exists_slot_of_mem_packets positive some among
  apply List.ne_nil_of_mem (a := instruction.resolved)
  refine List.mem_filter.mpr ⟨?_, ?_⟩
  · rw [← written]
    exact List.mem_map_of_mem listed
  · rw [← takesSlot_resolved] at slot
    exact slot

/-- Where packing ends with a number of cycles, all instructions resolve and that is the
number of packets. -/
theorem resolvable_and_length_of_pack (positive : 0 < width) {recognizer : Recognizer}
    {cycles : Nat} (packs : (recognizer.pack width region).outcome = .ok cycles) :
    resolvable region = region ∧ (packets width region).length = cycles := by
  rw [Recognizer.pack_outcome positive] at packs
  cases read : region.mapM Instruction.claim with
  | error fault =>
      rw [read] at packs
      cases packs
  | ok claims =>
      rw [read] at packs
      cases packs
      exact ⟨resolvable_eq_self (resolves_of_mapM_claim read), rfl⟩

namespace Recognizer

/-- A region of two additions on one unit, the second of which is flexible, and a label
between them. -/
def twoAdditions : List Instruction := [.addition .a, .label, .flexibleAddition .b]

/-- Whatever was packed before, every bundle that packing a region announces is a legal
packet, whether packing ends with its cycles or with a fault, and the fault is never
that a unit is booked twice. -/
theorem pack_bundles_legal (positive : 0 < width) (recognizer : Recognizer)
    (region : List Instruction) :
    (recognizer.pack width region).calls =
        (recognizer.pack width region).schedule.bundles.flatMap Bundle.calls ∧
      (∀ bundle ∈ (recognizer.pack width region).schedule.bundles,
        LegalPacket (min width Machine.maxIssueWidth) bundle.instructions) ∧
      ∀ unit, (recognizer.pack width region).outcome ≠ .error (.bookedTwice unit) := by
  refine ⟨?_, ?_, ?_⟩
  · rw [pack_schedule positive, pack_calls positive, Schedule.calls]
  · intro bundle member
    rw [pack_schedule positive] at member
    exact (legalPacket_of_mem_packed positive member).narrow
  · intro unit fails
    rw [pack_outcome positive] at fails
    cases read : region.mapM Instruction.claim with
    | ok claims =>
        rw [read] at fails
        cases fails
    | error fault =>
        rw [read] at fails
        cases fails
        obtain ⟨instruction, _, stops⟩ := exists_fault_of_mapM_claim read
        have malformation := isMalformation_of_claim stops
        cases malformation

/-- The label issues with the first addition, and the second addition waits for the unit. -/
theorem pack_bundles_legal_twoAdditions :
    0 < 4 ∧ ((Recognizer.pack {} 4 twoAdditions).schedule.bundles.map
        fun bundle => bundle.instructions.map Instruction.name) = [["add", "label"], ["add"]] ∧
      ∀ bundle ∈ (Recognizer.pack {} 4 twoAdditions).schedule.bundles,
        LegalPacket (min 4 Machine.maxIssueWidth) bundle.instructions :=
  ⟨by decide, by decide, (pack_bundles_legal (by decide) {} twoAdditions).2.1⟩

/-- When packing a region ends with a number of cycles, its schedule holds the
instructions of the region in order, equal but for path bits. Its bundles are not empty
and stand in the cycles from 0 on, as many as were returned, and every one after the
first begins with an instruction that takes a slot. -/
theorem pack_faithful (positive : 0 < width) (recognizer : Recognizer) {cycles : Nat}
    (packs : (recognizer.pack width region).outcome = .ok cycles) :
    let schedule := (recognizer.pack width region).schedule
    List.Forall₂ EqualButPathBit region schedule.instructions ∧
      (∀ bundle ∈ schedule.bundles, bundle.instructions ≠ []) ∧
      schedule.bundles.map Bundle.cycle = List.range cycles ∧
      schedule.cycles = cycles ∧ schedule.bundles.length = cycles ∧
      ∀ bundle ∈ schedule.bundles.tail, ∃ first rest,
        bundle.instructions = first :: rest ∧ first.descriptor.isPseudo = false := by
  intro schedule
  have same : schedule = packed width region := pack_schedule positive recognizer region
  rw [same]
  rw [pack_outcome positive] at packs
  cases read : region.mapM Instruction.claim with
  | error fault =>
      rw [read] at packs
      cases packs
  | ok claims =>
      rw [read] at packs
      cases packs
      have whole : resolvable region = region := resolvable_eq_self (resolves_of_mapM_claim read)
      refine ⟨?_, ?_, ?_, ?_, ?_, ?_⟩
      · rw [instructions_packed positive, whole, List.forall₂_map_right_iff, List.forall₂_same]
        exact fun instruction _ => equalButPathBit_resolved instruction
      · exact fun bundle member => nonempty_of_mem_packed positive member
      · rw [packed, Schedule.ofGroups, Bundle.map_cycle_numbered, List.length_map,
          List.range_eq_range']
      · rw [packed, Schedule.cycles_ofGroups, List.length_map]
      · rw [packed, Schedule.ofGroups, Bundle.length_numbered, List.length_map]
      · exact fun bundle member => exists_first_of_mem_tail_packed positive member

/-- Both additions and the label are packed, in this order. -/
theorem pack_faithful_twoAdditions :
    0 < 4 ∧ (Recognizer.pack {} 4 twoAdditions).outcome = .ok 2 ∧
      List.Forall₂ EqualButPathBit twoAdditions
        (Recognizer.pack {} 4 twoAdditions).schedule.instructions :=
  ⟨by decide, rfl, (pack_faithful (by decide) {} rfl).1⟩

end Recognizer

end VliwPack
