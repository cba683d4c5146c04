import VliwPack.Proofs.Resolution.Description
import VliwPack.Proofs.Resolution.Reports

/-! # Calls

A call whose unit the opcode names keeps off the cross paths: resolving leaves it alone and
looks at none of its operands. Nothing keeps the descriptor of a call from being flexible,
though, and that a flexible instruction is a call is never asked. Its format field is written
and its cross path claimed as if it were none (`Instruction.call_resolution`).
-/

namespace VliwPack.Instruction

variable {instruction : Instruction}

/-- The instruction is a call that issues on a unit. -/
structure IsIssuedCall (instruction : Instruction) : Prop where
  call : instruction.descriptor.isCall = true
  real : instruction.descriptor.isPseudo = false
  unmoved : instruction.descriptor.isMove = false

/-- Resolving leaves the instruction alone, and it claims no cross path. -/
structure KeepsOffPaths (instruction : Instruction) : Prop where
  kept : instruction.resolved = instruction
  pathless : ∀ claim, instruction.claim = .ok claim → claim.path? = none

/-- The same instruction, but no call. -/
def uncalled (instruction : Instruction) : Instruction :=
  { instruction with descriptor := { instruction.descriptor with isCall := false } }

/-- The operands call for the path bit that the format field has, and if the field names a
unit, that bit stands for no path. -/
def CallsForNothing (instruction : Instruction) : Prop :=
  ∀ field bit, instruction.formatField? = some field →
    instruction.neededPathBit.outcome = .ok bit →
      FormatField.pathBit field = bit ∧
        ∀ kind, UnitKind.ofIndex (FormatField.kindIndex field) = .ok kind →
          instruction.descriptor.pathOfBit bit = none

/-! ### Fixed calls -/

/-- A call on a fixed unit claims that unit and no path, unless it accesses memory. -/
theorem IsIssuedCall.claim_of_fixed (call : instruction.IsIssuedCall)
    (fixed : instruction.isFlexible = false) :
    instruction.claim =
      if instruction.descriptor.isMemoryAccess then .error (.fixedMemoryAccess instruction.name)
      else .ok (.unit ⟨instruction.descriptor.unit, instruction.descriptor.side⟩ none) := by
  rw [Instruction.claim_of_fixed call.real call.unmoved fixed, outcome_crossPath_of_fixed fixed,
    if_pos call.call]
  split <;> rfl

/-- A call on a fixed unit keeps off the paths. -/
theorem IsIssuedCall.keepsOffPaths_of_fixed (call : instruction.IsIssuedCall)
    (fixed : instruction.isFlexible = false) : instruction.KeepsOffPaths where
  kept := by rw [resolved, resolve_of_fixed call.real call.unmoved fixed]
  pathless := by
    intro claim claims
    rw [call.claim_of_fixed fixed] at claims
    split at claims <;> cases claims
    rfl

/-! ### Flexible calls -/

/-- Resolving a flexible instruction writes the path bit if it can be told and written. -/
theorem resolved_of_flexible (real : instruction.descriptor.isPseudo = false)
    (unmoved : instruction.descriptor.isMove = false) (flexible : instruction.isFlexible = true) :
    instruction.resolved =
      match instruction.neededPathBit.outcome, instruction.formatField? with
      | .ok bit, some field => instruction.withFormatField (FormatField.withPathBit field bit)
      | _, _ => instruction := by
  rcases needed : instruction.neededPathBit with ⟨fault | bit, events⟩
  · rw [resolved, resolve_of_neededPathBit_error real unmoved flexible needed]
  · cases format : instruction.formatField? with
    | none => rw [resolved, resolve_of_formatField?_none real unmoved flexible needed format]
    | some field => rw [resolved, resolve_of_flexible real unmoved flexible needed format]

/-- That a flexible instruction is a call makes no difference to its resolving. -/
theorem claim_and_resolved_uncalled (real : instruction.descriptor.isPseudo = false)
    (unmoved : instruction.descriptor.isMove = false) (flexible : instruction.isFlexible = true) :
    instruction.uncalled.claim = instruction.claim ∧
      instruction.uncalled.resolved = instruction.resolved.uncalled := by
  have claims : instruction.uncalled.claim = _ := claim_of_flexible real unmoved flexible
  have leaves : instruction.uncalled.resolved = _ := resolved_of_flexible real unmoved flexible
  have needed : instruction.uncalled.neededPathBit = instruction.neededPathBit := rfl
  have format : instruction.uncalled.formatField? = instruction.formatField? := rfl
  constructor
  · rw [claims, claim_of_flexible real unmoved flexible]
    rfl
  · rw [leaves, resolved_of_flexible real unmoved flexible, needed, format]
    split <;> rfl

/-- A flexible instruction keeps off the paths exactly if it calls for none. -/
theorem keepsOffPaths_iff_of_flexible (real : instruction.descriptor.isPseudo = false)
    (unmoved : instruction.descriptor.isMove = false) (flexible : instruction.isFlexible = true) :
    instruction.KeepsOffPaths ↔ instruction.CallsForNothing := by
  have claims := claim_of_flexible real unmoved flexible
  have leaves := resolved_of_flexible real unmoved flexible
  unfold CallsForNothing
  cases needed : instruction.neededPathBit.outcome with
  | error fault =>
      rw [needed] at claims leaves
      refine iff_of_true ⟨leaves, fun claim same => ?_⟩ nofun
      cases claims.symm.trans same
  | ok bit =>
      cases format : instruction.formatField? with
      | none =>
          rw [needed, formatField_of_none format] at claims
          rw [needed, format] at leaves
          refine iff_of_true ⟨leaves, fun claim same => ?_⟩ nofun
          cases claims.symm.trans same
      | some field =>
          rw [needed, formatField_of_formatField? format] at claims
          rw [needed, format] at leaves
          change instruction.claim = flexibleClaim instruction.descriptor field bit at claims
          constructor
          · rintro ⟨kept, pathless⟩ _ _ ⟨⟩ ⟨⟩
            rw [leaves, withFormatField_eq_self_iff format,
              FormatField.withPathBit_eq_self_iff] at kept
            refine ⟨kept, fun kind named => ?_⟩
            rw [flexibleClaim, named] at claims
            exact pathless _ claims
          · intro nothing
            obtain ⟨same, unpathed⟩ := nothing field bit rfl rfl
            refine ⟨?_, fun claim found => ?_⟩
            · rw [leaves, withFormatField_eq_self_iff format,
                FormatField.withPathBit_eq_self_iff]
              exact same
            · rw [claims, flexibleClaim] at found
              obtain ⟨kind, named, rfl⟩ := Traced.outcome_map_eq_ok_iff.mp found
              exact unpathed kind named

/-! ### All calls -/

/-- A call that issues on a unit keeps off the cross paths if its unit is fixed, and then
claims that unit whatever its operands are, unless it is a load or store. A flexible call is
resolved as if it were no call, so it keeps off the cross paths only if its operands happen to
call for nothing. -/
theorem call_resolution (call : instruction.IsIssuedCall) :
    (instruction.isFlexible = false →
        instruction.KeepsOffPaths ∧
          instruction.claim =
            if instruction.descriptor.isMemoryAccess then
              .error (.fixedMemoryAccess instruction.name)
            else .ok (.unit ⟨instruction.descriptor.unit, instruction.descriptor.side⟩ none)) ∧
      (instruction.isFlexible = true →
        instruction.uncalled.claim = instruction.claim ∧
          instruction.uncalled.resolved = instruction.resolved.uncalled ∧
          (instruction.KeepsOffPaths ↔ instruction.CallsForNothing)) := by
  refine ⟨fun fixed => ⟨call.keepsOffPaths_of_fixed fixed, call.claim_of_fixed fixed⟩,
    fun flexible => ?_⟩
  obtain ⟨claims, leaves⟩ := claim_and_resolved_uncalled call.real call.unmoved flexible
  exact ⟨claims, leaves, keepsOffPaths_iff_of_flexible call.real call.unmoved flexible⟩

/-- A call that passes a register, its unit fixed or chosen by a format field. -/
def callWith (isUnitFixed : Bool) (passed : Register) : Instruction where
  descriptor :=
    { name := "call", unit := .s, isUnitFixed, isSideSelectable := true, isCall := true }
  operands := [.externalSymbol "f", .use passed, .immediate 2]

/-- The fixed call keeps off the paths, and the flexible one is resolved as if it were no call. -/
theorem call_resolution_callWith :
    (callWith true (.physical .b 3)).IsIssuedCall ∧
      (callWith true (.physical .b 3)).KeepsOffPaths ∧
      (callWith true (.physical .b 3)).claim = .ok (.unit ⟨.s, .a⟩ none) ∧
      (callWith false (.physical .b 3)).IsIssuedCall ∧
      (callWith false (.physical .b 3)).uncalled.claim =
        (callWith false (.physical .b 3)).claim ∧
      ¬ (callWith false (.physical .b 3)).CallsForNothing := by
  have fixed : (callWith true (.physical .b 3)).IsIssuedCall := ⟨rfl, rfl, rfl⟩
  have flexible : (callWith false (.physical .b 3)).IsIssuedCall := ⟨rfl, rfl, rfl⟩
  obtain ⟨keeps, claims⟩ := (call_resolution fixed).1 rfl
  obtain ⟨same, -, iff⟩ := (call_resolution flexible).2 rfl
  refine ⟨fixed, keeps, claims, flexible, same, fun nothing => ?_⟩
  cases (iff.mpr nothing).pathless _ rfl

/-- A flexible call that passes a register of the other side has its format field rewritten and
takes a cross path. -/
theorem callWith_takes_path :
    (callWith false (.physical .b 3)).IsIssuedCall ∧
      (callWith false (.physical .b 3)).claim = .ok (.unit ⟨.s, .a⟩ (some .x1)) ∧
      (callWith false (.physical .b 3)).resolved.operands =
        [.externalSymbol "f", .use (.physical .b 3), .immediate 3] ∧
      ¬ (callWith false (.physical .b 3)).KeepsOffPaths := by
  refine ⟨⟨rfl, rfl, rfl⟩, rfl, by decide, fun keeps => ?_⟩
  cases keeps.pathless _ rfl

end VliwPack.Instruction
