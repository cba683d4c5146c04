import VliwPack.Proofs.Resolution.Equations

/-! # Resolving an instruction again

Resolving leaves an instruction alone or writes the path bit of its format field
(`resolved_eq_self_or_written`), so it changes nothing else (`equalButPathBit_resolved`).
The path bit that is written does not depend on the one that stood there
(`EqualButPathBit.claim_and_resolved`), so resolving the instruction left behind gives the
same claim (`claim_resolved`) and leaves the same instruction (`resolved_resolved`). What
a scheduler books is thus what it checked.
-/

namespace VliwPack

/-- Writing a path bit keeps nothing of the field but its unit kind. -/
theorem FormatField.withPathBit_congr {first second : Int64}
    (same : kindIndex first = kindIndex second) (bit : Bool) :
    withPathBit first bit = withPathBit second bit := by
  rw [withPathBit, same, withPathBit]

/-- The path bit that is written last stays. -/
@[simp] theorem FormatField.withPathBit_withPathBit (field : Int64) (first second : Bool) :
    withPathBit (withPathBit field first) second = withPathBit field second :=
  withPathBit_congr (kindIndex_withPathBit field first) second

namespace Instruction

variable {instruction : Instruction}

/-- The second instruction is the first, or the first is flexible, neither pseudo
nor a move, and the two differ in the lowest bit of the format field at most. -/
inductive EqualButPathBit : Instruction → Instruction → Prop
  | same (instruction : Instruction) : EqualButPathBit instruction instruction
  | written {instruction : Instruction} {field other : Int64}
      (real : instruction.descriptor.isPseudo = false)
      (unmoved : instruction.descriptor.isMove = false)
      (flexible : instruction.isFlexible = true)
      (format : instruction.formatField? = some field)
      (agree : other.toInt / 2 = field.toInt / 2) :
      EqualButPathBit instruction (instruction.withFormatField other)

/-- Resolving leaves an instruction alone, or it is flexible and gets the path bit
that its operands call for. -/
theorem resolved_eq_self_or_written (instruction : Instruction) :
    instruction.resolved = instruction ∨
      instruction.descriptor.isPseudo = false ∧ instruction.descriptor.isMove = false ∧
        instruction.isFlexible = true ∧ ∃ field bit events,
          instruction.formatField? = some field ∧
            instruction.neededPathBit = ⟨.ok bit, events⟩ ∧
            instruction.resolved =
              instruction.withFormatField (FormatField.withPathBit field bit) := by
  have way := instruction.resolution
  unfold resolved
  generalize resolve instruction = trail at way ⊢
  cases way with
  | pseudo | move | fixed | unneeded | formatless => exact .inl rfl
  | written real unmoved flexible needed format =>
      exact .inr ⟨real, unmoved, flexible, _, _, _, format, needed, rfl⟩

/-- Resolving changes nothing but the path bit. -/
theorem equalButPathBit_resolved (instruction : Instruction) :
    EqualButPathBit instruction instruction.resolved := by
  rcases instruction.resolved_eq_self_or_written with
    same | ⟨real, unmoved, flexible, field, bit, events, format, needed, written⟩
  · rw [same]
    exact .same instruction
  · rw [written]
    exact .written real unmoved flexible format (FormatField.kindIndex_withPathBit field bit)

/-! ### The path bit that stood there before -/

variable {first second : Instruction}

/-- Instructions equal but for the path bit have the same descriptor. -/
theorem EqualButPathBit.descriptor_eq (alike : EqualButPathBit first second) :
    second.descriptor = first.descriptor := by
  cases alike <;> rfl

private theorem EqualButPathBit.predicate_eq (alike : EqualButPathBit first second) :
    second.predicate = first.predicate := by
  cases alike <;> rfl

/-- Instructions that differ in the path bit have the same claim or fault. If they resolve,
resolving leaves the same instruction behind; where it does not, the second is left alone. -/
theorem EqualButPathBit.claim_and_resolved (alike : EqualButPathBit first second) :
    second.claim = first.claim ∧
      (second.resolved = first.resolved ∨ ¬ first.Resolves ∧ second.resolved = second) := by
  cases alike with
  | same => exact ⟨rfl, .inl rfl⟩
  | @written field other real unmoved flexible format agree =>
      let rewritten := first.withFormatField other
      have alsoFlexible : rewritten.isFlexible = true := flexible
      have alsoFormat := formatField?_withFormatField first other
      have alsoNeeded := neededPathBit_withFormatField format other
      -- Both call for the same bit, as it is read off the operands before the field.
      rcases needed : first.neededPathBit with ⟨fault | bit, events⟩
      · have stuck := resolve_of_neededPathBit_error real unmoved flexible needed
        have alsoStuck : resolve rewritten = _ :=
          resolve_of_neededPathBit_error real unmoved alsoFlexible (alsoNeeded.trans needed)
        have fails : first.claim = .error fault := by rw [claim, stuck]
        refine ⟨?_, .inr ⟨not_resolves_of_fault fails, ?_⟩⟩
        · rw [fails, claim, alsoStuck]
        · rw [resolved, alsoStuck]
      · have run := resolve_of_flexible real unmoved flexible needed format
        have alsoRun : resolve rewritten = _ :=
          resolve_of_flexible real unmoved alsoFlexible (alsoNeeded.trans needed) alsoFormat
        have sameUnit : FormatField.kindIndex other = FormatField.kindIndex field := agree
        refine ⟨?_, .inl ?_⟩
        · rw [claim, alsoRun, claim, run]
          simp [flexibleClaim, rewritten, sameUnit]
        · rw [resolved, alsoRun, resolved, run]
          simp [rewritten, FormatField.withPathBit_congr sameUnit]

/-- Instructions equal but for the path bit make the same claim. -/
theorem EqualButPathBit.claim_eq (alike : EqualButPathBit first second) :
    second.claim = first.claim :=
  alike.claim_and_resolved.1

/-- Instructions equal but for the path bit are resolved to the same instruction. -/
theorem EqualButPathBit.resolved_eq (alike : EqualButPathBit first second)
    (resolves : first.Resolves) : second.resolved = first.resolved :=
  alike.claim_and_resolved.2.resolve_right fun stuck => stuck.1 resolves

/-! ### Resolving twice -/

/-- Resolving again gives the same claim or fault and leaves the same instruction. -/
theorem claim_and_resolved_resolved (instruction : Instruction) :
    instruction.resolved.claim = instruction.claim ∧
      instruction.resolved.resolved = instruction.resolved := by
  obtain ⟨claims, same | ⟨-, same⟩⟩ := instruction.equalButPathBit_resolved.claim_and_resolved
  · exact ⟨claims, same⟩
  · exact ⟨claims, same⟩

/-- A fault leaves the instruction alone, unless it is that no unit has the number in the
format field: that is found when the path bit has been written. -/
theorem resolved_eq_self_of_fault {fault : Fault} (fails : instruction.claim = .error fault)
    (early : ∀ index, fault ≠ .unknownUnitIndex index) : instruction.resolved = instruction := by
  have way := instruction.resolution
  unfold claim at fails
  unfold resolved
  generalize resolve instruction = trail at way fails ⊢
  cases way with
  | pseudo | move | fixed | unneeded | formatless => rfl
  | @written bit events field =>
      dsimp only at fails
      unfold flexibleClaim UnitKind.ofIndex at fails
      split at fails <;> cases fails
      exact absurd rfl (early _)

/-- Resolving keeps the claim. -/
@[simp] theorem claim_resolved (instruction : Instruction) :
    instruction.resolved.claim = instruction.claim :=
  instruction.claim_and_resolved_resolved.1

/-- Resolving again changes nothing. -/
@[simp] theorem resolved_resolved (instruction : Instruction) :
    instruction.resolved.resolved = instruction.resolved :=
  instruction.claim_and_resolved_resolved.2

/-- Resolving keeps the descriptor. -/
@[simp] theorem descriptor_resolved (instruction : Instruction) :
    instruction.resolved.descriptor = instruction.descriptor :=
  instruction.equalButPathBit_resolved.descriptor_eq

/-- Resolving keeps the predicate. -/
@[simp] theorem predicate_resolved (instruction : Instruction) :
    instruction.resolved.predicate = instruction.predicate :=
  instruction.equalButPathBit_resolved.predicate_eq

/-- Resolving keeps the name. -/
@[simp] theorem name_resolved (instruction : Instruction) :
    instruction.resolved.name = instruction.name := by
  rw [name, descriptor_resolved, name]

/-- An instruction that has been resolved resolves exactly if it did before. -/
@[simp] theorem resolves_resolved (instruction : Instruction) :
    instruction.resolved.Resolves ↔ instruction.Resolves := by
  rw [Resolves, claim_resolved, Resolves]

end Instruction

end VliwPack
