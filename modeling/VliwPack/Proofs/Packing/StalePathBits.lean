import VliwPack.Proofs.Packing.Correspondence

/-! # Path bits before packing

The path bit in the format field of an instruction to be packed has no influence: it is
overwritten before it is read, wherever the instruction resolves, and where it does not,
the fault is the same and nothing is pushed. So regions that differ in such bits only are
packed in lockstep (`Recognizer.pack_path_bits_irrelevant`).
-/

namespace VliwPack

open Instruction

/-- Packing instructions with other path bits goes in lockstep, and pushes the same. -/
def Correspondence.otherPathBits : Correspondence where
  recognizer := id
  claim := id
  conflict := id
  pushed := id
  Compared := EqualButPathBit
  isPseudo_eq alike := congrArg Descriptor.isPseudo alike.descriptor_eq
  claim_eq alike := by
    rw [alike.claim_eq, Except.map_id]
    rfl
  resolved_eq alike resolves := alike.resolved_eq resolves
  conflict?_eq one checked := one.conflict?_id checked
  counted_eq _ _ := rfl
  booked_eq _ _ := rfl
  advanced_eq _ := rfl
  countBundle_eq _ := rfl

namespace Recognizer

variable {region other : List Instruction}

/-- Regions that differ in nothing but the path bits of flexible instructions, neither
pseudo nor moves, are packed alike: the same bundles are announced with the same
instructions in them, packing ends in the same way, and the recognizer is left with the
same occupancy and statistics. -/
theorem pack_path_bits_irrelevant (alike : List.Forall₂ EqualButPathBit region other)
    (recognizer : Recognizer) (width : Nat) :
    let one := recognizer.pack width region
    let another := recognizer.pack width other
    another.calls = one.calls ∧ another.outcome = one.outcome ∧
      another.recognizer.occupancy = one.recognizer.occupancy ∧
      another.recognizer.stats = one.recognizer.stats := by
  have corresponds := Correspondence.otherPathBits.pack_eq alike width
    (rfl : recognizer.reset = Correspondence.otherPathBits.recognizer recognizer.reset)
  have same := corresponds.recognizer
  refine ⟨?_, corresponds.outcome, congrArg Recognizer.occupancy same,
    congrArg Recognizer.stats same⟩
  rw [corresponds.calls]
  exact (List.map_congr_left fun call _ => call.map_id).trans (List.map_id _)

/-- An addition, a load and a multiplication on no known unit, each with the path bit that
its operands do not call for. -/
def staleBits : List Instruction :=
  [.flexibleAddition .b, .loadAcross, (flexibleAddition .b).withFormatField (-2)]

/-- The same instructions with the other path bits. -/
def otherBits : List Instruction :=
  [(flexibleAddition .b).withFormatField 1, loadAcross.withFormatField 7,
    (flexibleAddition .b).withFormatField (-1)]

/-- Both regions are announced with the path bits their operands call for, up to the unknown unit.
-/
theorem pack_path_bits_irrelevant_staleBits :
    List.Forall₂ EqualButPathBit staleBits otherBits ∧
      (Recognizer.pack {} 8 otherBits).calls = (Recognizer.pack {} 8 staleBits).calls ∧
      (Recognizer.pack {} 8 staleBits).calls =
        [.begin 0, .push ((flexibleAddition .b).withFormatField 1),
          .push (loadAcross.withFormatField 7)] ∧
      (Recognizer.pack {} 8 otherBits).outcome = .error (.unknownUnitIndex (-1)) := by
  have alike : List.Forall₂ EqualButPathBit staleBits otherBits := by
    refine .cons ?_ (.cons ?_ (.cons ?_ .nil)) <;>
      exact .written rfl rfl rfl rfl (by decide)
  obtain ⟨calls, outcome, -⟩ := pack_path_bits_irrelevant alike {} 8
  exact ⟨alike, calls, rfl, outcome.trans rfl⟩

end Recognizer

end VliwPack
