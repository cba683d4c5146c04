import VliwPack.Proofs.Assembly.Parts
import VliwPack.Proofs.Assembly.UnitField
import VliwPack.Proofs.Resolution.Description

/-! # Two encodings of an operation

An operation can be encoded with its unit chosen by the format field, or with the unit
hard-wired in the opcode and no format field (`Instruction.hardWired`). The first encoding
writes what its operands call for into the path bit, and its unit and path are read off the
field. The second has its unit in the descriptor, and its path is read off the operands.
Both make the same claim or have the same fault, and both are printed alike
(`Instruction.hardWired_agrees`).
-/

namespace VliwPack.Instruction

variable {instruction : Instruction} {field : Int64} {kind : UnitKind}
  {unit : FunctionalUnit} {path : Option CrossPath}

/-- The instruction's unit is chosen by its format field, which names the kind, and its path
by its leading registers. -/
structure Chooses (instruction : Instruction) (kind : UnitKind) : Prop where
  real : instruction.descriptor.isPseudo = false
  unmoved : instruction.descriptor.isMove = false
  uncalled : instruction.descriptor.isCall = false
  plain : instruction.descriptor.isMemoryAccess = false
  flexible : instruction.isFlexible = true
  format : ∃ field, instruction.formatField? = some field ∧ field.toInt / 2 = kind.index

/-- The instruction with its unit hard-wired, and without its format field. -/
def hardWired (instruction : Instruction) (kind : UnitKind) : Instruction :=
  { instruction with
    descriptor := { instruction.descriptor with isUnitFixed := true, unit := kind }
    operands := instruction.operands.dropLast }

private theorem isFlexible_hardWired (instruction : Instruction) (kind : UnitKind) :
    (instruction.hardWired kind).isFlexible = false := rfl

/-! ### The claim -/

/-- The format field may be among the leading operands, but it is no register. -/
theorem operandSides_hardWired (format : instruction.formatField? = some field)
    (kind : UnitKind) : (instruction.hardWired kind).operandSides = instruction.operandSides := by
  have leading := congrArg (List.take sideOperands) (operands_of_formatField? format)
  rw [List.take_append] at leading
  unfold operandSides
  rw [leading]
  -- Either the leading operands end before the field, or the field is the last of them.
  rcases sideOperands - instruction.operands.dropLast.length with _ | room
  · rw [List.take_zero, List.append_nil]
    rfl
  · rw [List.take_succ_cons, List.take_nil]
    exact (OperandSides.scan_append_of_register?_none instruction.name rfl _ _ _).symm

/-- The path that an instruction on the side needs for registers on these sides. -/
def dataPath? (side : Side) (sides : OperandSides) : Option CrossPath :=
  if sides.needsDataPath side then some (.data side) else none

/-- The claim is for the chosen unit, and for the data path if an operand is read across. -/
theorem Chooses.claim_eq (chooses : instruction.Chooses kind) :
    instruction.claim = instruction.operandSides.outcome.map fun sides =>
      .unit ⟨kind, instruction.descriptor.side⟩ (dataPath? instruction.descriptor.side sides) := by
  obtain ⟨field, format, half⟩ := chooses.format
  have unit : UnitKind.ofIndex (FormatField.kindIndex field) = .ok kind :=
    UnitKind.ofIndex_eq_ok_iff.mpr half
  have access : ¬ instruction.descriptor.isMemoryAccess = true := by simp [chooses.plain]
  rw [claim_of_flexible chooses.real chooses.unmoved chooses.flexible, outcome_neededPathBit,
    if_neg access, formatField_of_formatField? format]
  rcases instruction.operandSides.outcome with fault | sides
  · rfl
  · change flexibleClaim instruction.descriptor field _ = _
    rw [flexibleClaim, unit, Descriptor.pathOfBit, if_neg access]
    rfl

/-- Fixing the unit that a format field chooses keeps the claim. -/
theorem Chooses.claim_hardWired (chooses : instruction.Chooses kind) :
    (instruction.hardWired kind).claim = instruction.claim := by
  obtain ⟨field, format, -⟩ := chooses.format
  have fixed := instruction.isFlexible_hardWired kind
  have claims : (instruction.hardWired kind).claim = _ :=
    claim_of_fixed chooses.real chooses.unmoved fixed
  have access : ¬ (instruction.hardWired kind).descriptor.isMemoryAccess = true := by
    simp [hardWired, chooses.plain]
  have call : ¬ (instruction.hardWired kind).descriptor.isCall = true := by
    simp [hardWired, chooses.uncalled]
  rw [claims, outcome_crossPath_of_fixed fixed, if_neg access, if_neg call,
    operandSides_hardWired format, chooses.claim_eq]
  rcases instruction.operandSides.outcome with fault | sides <;> rfl

/-- There is nothing to resolve once the unit is fixed. -/
theorem Chooses.resolved_hardWired (chooses : instruction.Chooses kind) :
    (instruction.hardWired kind).resolved = instruction.hardWired kind := by
  have run : resolve (instruction.hardWired kind) = _ :=
    resolve_of_fixed chooses.real chooses.unmoved (instruction.isFlexible_hardWired kind)
  rw [resolved, run]

/-! ### The text -/

/-- The operand texts are those of the resolved instruction. -/
theorem Chooses.operandTexts_hardWired (chooses : instruction.Chooses kind) :
    (instruction.hardWired kind).operandTexts = instruction.resolved.operandTexts := by
  have access : ¬ instruction.descriptor.isMemoryAccess = true := by simp [chooses.plain]
  have alsoAccess : ¬ (instruction.hardWired kind).descriptor.isMemoryAccess = true := access
  have name : (instruction.hardWired kind).name = instruction.resolved.name :=
    instruction.name_resolved.symm
  rw [operandTexts, if_neg alsoAccess, operandTexts, descriptor_resolved, if_neg access,
    operandText_congr name, encodedOperands_resolved, encodedOperands, encodedOperands,
    if_pos chooses.flexible]
  rfl

/-- Where the encodings have a claim, both are printed alike. -/
theorem Chooses.text_hardWired (chooses : instruction.Chooses kind)
    (claims : instruction.claim = .ok (.unit unit path)) :
    (instruction.hardWired kind).text.outcome = instruction.resolved.text.outcome := by
  have name : (instruction.hardWired kind).name = instruction.resolved.name :=
    instruction.name_resolved.symm
  apply outcome_text_congr name
  · apply predicateText_congr name
    · exact instruction.predicate_resolved.symm
    · rw [descriptor_resolved]
      rfl
  · rw [unitText?_of_claim (chooses.claim_hardWired.trans claims) chooses.resolved_hardWired,
      unitText?_of_claim (instruction.claim_resolved.trans claims) instruction.resolved_resolved]
  · exact chooses.operandTexts_hardWired

/-- An instruction whose unit is chosen by its format field, and is neither a call nor a load
or store, has the same claim with that unit hard-wired and the format field removed: that
unit with the path its operands need, or the fault of the same virtual register. The
hard-wired encoding is left alone by resolving, and is printed like the other after
resolving, with the same text or the same fault. -/
theorem hardWired_agrees (chooses : instruction.Chooses kind) :
    (instruction.hardWired kind).claim = instruction.claim ∧
      (∀ claim, instruction.claim = .ok claim →
        ∃ path, claim = .unit ⟨kind, instruction.descriptor.side⟩ path) ∧
      (∀ fault, instruction.claim = .error fault →
        ∃ number, fault = .virtualRegister instruction.name number) ∧
      (instruction.hardWired kind).resolved = instruction.hardWired kind ∧
      (instruction.Resolves →
        (instruction.hardWired kind).text.outcome = instruction.resolved.text.outcome) := by
  have onUnit : ∀ claim, instruction.claim = .ok claim →
      ∃ path, claim = .unit ⟨kind, instruction.descriptor.side⟩ path := by
    intro claim claims
    rw [chooses.claim_eq] at claims
    obtain ⟨sides, -, rfl⟩ := Traced.outcome_map_eq_ok_iff.mp claims
    exact ⟨_, rfl⟩
  refine ⟨chooses.claim_hardWired, onUnit, ?_, chooses.resolved_hardWired, ?_⟩
  · intro fault fails
    rw [chooses.claim_eq] at fails
    have scanned := Traced.outcome_map_eq_error_iff.mp fails
    obtain ⟨number, -, same⟩ := operandSides_eq_error_iff.mp scanned
    exact ⟨number, same⟩
  · rintro ⟨claim, claims⟩
    obtain ⟨path, rfl⟩ := onUnit claim claims
    exact chooses.text_hardWired claims

/-- An addition that reads across, with a stale path bit in a format field that names the
multiplier. -/
def flexibleMultiplication : Instruction := (flexibleAddition .b).withFormatField 4

/-- The stale path bit is replaced, and the addition is written for the multiplier as if it were
fixed there. -/
theorem hardWired_agrees_flexibleMultiplication :
    flexibleMultiplication.Chooses .m ∧
      (flexibleMultiplication.hardWired .m).operands =
        [.define (.physical .a 1), .use (.physical .b 2)] ∧
      flexibleMultiplication.claim = .ok (.unit ⟨.m, .a⟩ (some .x1)) ∧
      (flexibleMultiplication.hardWired .m).claim = flexibleMultiplication.claim ∧
      flexibleMultiplication.resolved.text.outcome = .ok "\tadd\t.M1X\tA1, B2" ∧
      (flexibleMultiplication.hardWired .m).text.outcome =
        flexibleMultiplication.resolved.text.outcome := by
  have chooses : flexibleMultiplication.Chooses .m := ⟨rfl, rfl, rfl, rfl, rfl, 4, rfl, by decide⟩
  obtain ⟨claims, -, -, -, printed⟩ := hardWired_agrees chooses
  exact ⟨chooses, rfl, rfl, claims, by decide, printed ⟨_, rfl⟩⟩

end VliwPack.Instruction
