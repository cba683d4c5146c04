import VliwPack.Proofs.Packing.Optimality

/-! # Less to pack takes no longer

Leaving instructions out and issuing more of them together never costs a cycle
(`Recognizer.pack_monotone`). The packings of the two regions may differ from the first
bundle on, so they are not compared bundle by bundle: what is kept of the packets of the
longer region cuts the shorter one into legal packets (`Cutting.exists_of_sublist`), and
packing takes no more cycles than any such cutting has packets.
-/

namespace VliwPack

open Instruction

variable {width wide : Nat} {region kept : List Instruction}

/-- What is kept of a region has no more packets, also where more instructions may issue
together. -/
theorem length_packets_le_of_sublist (positive : 0 < width) (wider : width ≤ wide)
    (resolves : ∀ instruction ∈ region, instruction.Resolves) (among : kept.Sublist region) :
    (packets wide kept).length ≤ (packets width region).length := by
  have still : ∀ instruction ∈ kept, instruction.Resolves :=
    fun instruction member => resolves instruction (among.subset member)
  have single : ∀ instruction ∈ kept, LegalPacket wide [instruction] := fun instruction member =>
    legalPacket_singleton (Nat.lt_of_lt_of_le positive wider) (still instruction member)
  have cutting := cutting_packets positive region
  rw [resolvable_eq_self resolves] at cutting
  obtain ⟨parts, cut, fewer⟩ := cutting.exists_of_sublist
    (fun _ _ legal partly => (legal.sublist partly).wider wider) among
  rw [packets, resolvable_eq_self still]
  exact Nat.le_trans (cut.length_greedyCut_le (legalPacket_hereditary wide) single) fewer

namespace Recognizer

/-- If the instructions of a region that take a slot resolve, packing the region ends with a
number of cycles, and packing what is kept of it when any instructions are left out, with
the same or a larger issue width, ends with no more. -/
theorem pack_monotone (positive : 0 < width) (wider : width ≤ wide)
    (recognizer other : Recognizer)
    (resolves : ∀ instruction ∈ region,
      instruction.descriptor.isPseudo = false → instruction.Resolves)
    (among : kept.Sublist region) :
    ∃ cycles fewer, (recognizer.pack width region).outcome = .ok cycles ∧
      (other.pack wide kept).outcome = .ok fewer ∧ fewer ≤ cycles := by
  have all := resolves_of_slots_resolve resolves
  have still : ∀ instruction ∈ kept, instruction.Resolves :=
    fun instruction member => all instruction (among.subset member)
  refine ⟨_, _, pack_outcome_of_resolves positive recognizer all, ?_,
    length_packets_le_of_sublist positive wider all among⟩
  exact pack_outcome_of_resolves (Nat.lt_of_lt_of_le positive wider) other still

/-- Three additions on one unit, with a copy before the last. -/
def additionsAndCopy : List Instruction := [.addition .a, .addition .a, .copy .a, .addition .a]

/-- Two of the additions with twice the width take no more cycles. -/
theorem pack_monotone_additionsAndCopy :
    0 < 1 ∧ 1 ≤ 2 ∧
      (∀ instruction ∈ additionsAndCopy,
        instruction.descriptor.isPseudo = false → instruction.Resolves) ∧
      [addition .a, addition .a].Sublist additionsAndCopy ∧
      (Recognizer.pack {} 1 additionsAndCopy).outcome = .ok 4 ∧
      ∃ cycles fewer, (Recognizer.pack {} 1 additionsAndCopy).outcome = .ok cycles ∧
        (Recognizer.pack {} 2 [addition .a, addition .a]).outcome = .ok fewer ∧
          fewer ≤ cycles := by
  have resolves : ∀ instruction ∈ additionsAndCopy,
      instruction.descriptor.isPseudo = false → instruction.Resolves := by decide
  have among : [addition .a, addition .a].Sublist additionsAndCopy := by decide
  refine ⟨by decide, by decide, resolves, among, rfl, ?_⟩
  exact pack_monotone (by decide) (by decide) {} {} resolves among

end Recognizer

end VliwPack
