import VliwPack.Proofs.Resolution.Idempotence
import VliwPack.Proofs.Symmetry.Datapath

/-! # Resolving on the other side

An instruction exchanges its sides by issuing on the other side with registers of the
other files. It then has the claim on the other side, or the same fault
(`Instruction.claim_swapSides`). What is left behind exchanges its sides too
(`Instruction.resolved_swapSides`), except that the path bit of a load or store names a
memory path, hence a side, and becomes the opposite one; the path bit of all else only
tells whether the instruction reads across.
-/

namespace VliwPack

/-- The register of this number in the other file. -/
def Register.opposite : Register → Register
  | physical side number => physical side.opposite number
  | virtual number => virtual number

/-- The operand names a register of the other file. -/
def Operand.swapSides : Operand → Operand
  | register reg isDef isImplicit => register reg.opposite isDef isImplicit
  | operand => operand

/-- The predicate reads a register of the other file. -/
def Predicate.swapSides (predicate : Predicate) : Predicate :=
  { predicate with reg := predicate.reg.opposite }

/-- The descriptor of an instruction on the other side. -/
def Descriptor.swapSides (descriptor : Descriptor) : Descriptor :=
  { descriptor with side := descriptor.side.opposite }

/-- The instruction issues on the other side, with registers of the other files. -/
def Instruction.swapSides (instruction : Instruction) : Instruction where
  descriptor := instruction.descriptor.swapSides
  operands := instruction.operands.map Operand.swapSides
  predicate := instruction.predicate.map Predicate.swapSides

/-! ### The sides of the operands -/

namespace OperandSides

/-- The sides of operands from the other files. -/
def swapSides : OperandSides → OperandSides
  | unsided => unsided
  | uniform side => uniform side.opposite
  | mixed first => mixed first.opposite

private theorem first?_swapSides (sides : OperandSides) :
    sides.swapSides.first? = sides.first?.map Side.opposite := by
  cases sides <;> rfl

/-- Reading across does not depend on which side is which. -/
theorem needsDataPath_swapSides (sides : OperandSides) (side : Side) :
    sides.swapSides.needsDataPath side.opposite = sides.needsDataPath side := by
  cases sides with
  | unsided | mixed => rfl
  | uniform own => cases own <;> cases side <;> rfl

/-- A physical register is the first one, agrees with the first one, or ends the scan. -/
theorem scan_physical (mnemonic : String) (position : Nat) (sofar : OperandSides) (side : Side)
    (number : Fin Machine.registersPerSide) (isDef isImplicit : Bool) (rest : List Operand) :
    scan mnemonic position sofar (.register (.physical side number) isDef isImplicit :: rest) =
      match sofar.first? with
      | none => scan mnemonic (position + 1) (uniform side) rest
      | some first =>
          if first = side then scan mnemonic (position + 1) sofar rest
          else ⟨.ok (mixed first), [.operandSideDiffers mnemonic position]⟩ := by
  rw [scan]
  cases sofar.first? <;> rfl

/-- Registers agree on the other side exactly if they agree here, so the scan ends at the
same operand. -/
theorem scan_swapSides (mnemonic : String) (operands : List Operand) :
    ∀ position sofar, scan mnemonic position (swapSides sofar) (operands.map Operand.swapSides) =
      swapSides <$> scan mnemonic position sofar operands := by
  induction operands with
  | nil => exact fun _ sofar => (Traced.map_ok swapSides sofar []).symm
  | cons operand rest ih =>
      intro position sofar
      cases operand with
      | register reg isDef isImplicit =>
          cases reg with
          | virtual number => rfl
          | physical side number =>
              rw [List.map_cons, Operand.swapSides, Register.opposite, scan_physical,
                scan_physical, first?_swapSides]
              cases sofar.first? with
              | none => exact ih (position + 1) (uniform side)
              | some first =>
                  by_cases agrees : first = side
                  · subst agrees
                    simp only [Option.map_some, ↓reduceIte]
                    exact ih (position + 1) sofar
                  · have differs : first.opposite ≠ side.opposite := fun same =>
                      agrees (by rw [← first.opposite_opposite, same, side.opposite_opposite])
                    simp only [Option.map_some, if_neg agrees, if_neg differs]
                    rfl
      | immediate | basicBlock | globalAddress | externalSymbol | jumpTableIndex =>
          exact ih (position + 1) sofar

end OperandSides

namespace Instruction

variable (instruction : Instruction)

private theorem name_swapSides : instruction.swapSides.name = instruction.name := rfl

private theorem operands_swapSides :
    instruction.swapSides.operands = instruction.operands.map Operand.swapSides := rfl

private theorem needsDataPath_swapSides (sides : OperandSides) :
    sides.swapSides.needsDataPath instruction.swapSides.descriptor.side =
      sides.needsDataPath instruction.descriptor.side :=
  sides.needsDataPath_swapSides instruction.descriptor.side

private theorem operandSides_swapSides :
    instruction.swapSides.operandSides = OperandSides.swapSides <$> instruction.operandSides := by
  unfold operandSides
  rw [← OperandSides.scan_swapSides, List.map_take]
  rfl

private theorem formatField?_swapSides :
    instruction.swapSides.formatField? = instruction.formatField? := by
  unfold formatField?
  rw [swapSides, List.getLast?_map]
  cases instruction.operands.getLast? with
  | none => rfl
  | some operand => cases operand <;> rfl

/-- The register of an access is the opposite one on the other side. -/
private theorem memoryRegister_swapSides :
    instruction.swapSides.memoryRegister = instruction.memoryRegister.map Register.opposite := by
  have kept : instruction.swapSides.descriptor.isStore = instruction.descriptor.isStore := rfl
  unfold memoryRegister
  rw [kept, name_swapSides, operands_swapSides]
  by_cases store : instruction.descriptor.isStore = true
  · rw [if_pos store, if_pos store]
    rcases instruction.operands with _ | ⟨base, _ | ⟨offset, _ | ⟨data, rest⟩⟩⟩
    · rfl
    · rfl
    · rfl
    · cases data with
      | register reg isDef isImplicit => cases isDef <;> rfl
      | immediate | basicBlock | globalAddress | externalSymbol | jumpTableIndex => rfl
  · rw [if_neg store, if_neg store]
    rcases instruction.operands with _ | ⟨destination, rest⟩
    · rfl
    · cases destination with
      | register reg isDef isImplicit => cases isDef <;> cases isImplicit <;> rfl
      | immediate | basicBlock | globalAddress | externalSymbol | jumpTableIndex => rfl

/-- The path bit called for is the opposite one in a load or store, and the same one in
all else. -/
theorem neededPathBit_swapSides :
    instruction.swapSides.neededPathBit =
      (· ^^ instruction.descriptor.isMemoryAccess) <$> instruction.neededPathBit := by
  have kept : instruction.swapSides.descriptor.isMemoryAccess =
    instruction.descriptor.isMemoryAccess := rfl
  unfold neededPathBit
  rw [kept]
  cases instruction.descriptor.isMemoryAccess with
  | true =>
      simp only [↓reduceIte, memoryRegister_swapSides]
      rcases instruction.memoryRegister with fault | ⟨side, number⟩ | number
      · rfl
      · cases side <;> rfl
      · rfl
  | false =>
      simp only [Bool.false_eq_true, ↓reduceIte, operandSides_swapSides]
      rcases instruction.operandSides with ⟨fault | sides, events⟩
      · rfl
      · simp only [Traced.map_ok, Traced.ok_bind, Traced.pure_eq, needsDataPath_swapSides,
          Bool.xor_false]

/-- The cross path of a fixed instruction is the opposite one on the other side. -/
theorem outcome_crossPath_swapSides (fixed : instruction.isFlexible = false) :
    instruction.swapSides.crossPath.outcome =
      instruction.crossPath.outcome.map (Option.map CrossPath.opposite) := by
  have alsoFixed : instruction.swapSides.isFlexible = false := fixed
  have memory : instruction.swapSides.descriptor.isMemoryAccess =
    instruction.descriptor.isMemoryAccess := rfl
  have call : instruction.swapSides.descriptor.isCall = instruction.descriptor.isCall := rfl
  unfold crossPath
  simp only [fixed, alsoFixed, Bool.false_eq_true, ↓reduceIte, memory, call]
  by_cases access : instruction.descriptor.isMemoryAccess = true
  · rw [if_pos access, if_pos access]
    rfl
  · rw [if_neg access, if_neg access]
    by_cases calls : instruction.descriptor.isCall = true
    · rw [if_pos calls, if_pos calls]
      rfl
    · rw [if_neg calls, if_neg calls, operandSides_swapSides]
      rcases instruction.operandSides with ⟨fault | sides, events⟩
      · rfl
      · simp only [Traced.map_ok, Traced.ok_bind, needsDataPath_swapSides]
        by_cases needs : sides.needsDataPath instruction.descriptor.side = true
        · rw [if_pos needs, if_pos needs]
          exact congrArg (Except.ok ∘ some) (CrossPath.opposite_data _).symm
        · rw [if_neg needs, if_neg needs]
          rfl

/-- A move takes the opposite route on the other side. -/
theorem outcome_moveRoute_swapSides :
    instruction.swapSides.moveRoute.outcome =
      instruction.moveRoute.outcome.map
        (Prod.map Side.opposite (Option.map CrossPath.opposite)) := by
  unfold moveRoute
  rw [operands_swapSides, name_swapSides]
  rcases instruction.operands with _ | ⟨destination, _ | ⟨source, rest⟩⟩
  · rfl
  · cases destination with
    | register reg isDef isImplicit => cases isDef <;> rfl
    | immediate | basicBlock | globalAddress | externalSymbol | jumpTableIndex => rfl
  · cases destination with
    | immediate | basicBlock | globalAddress | externalSymbol | jumpTableIndex => rfl
    | register into isDef isImplicit =>
        cases isDef with
        | false => rfl
        | true =>
            cases source with
            | immediate | basicBlock | globalAddress | externalSymbol | jumpTableIndex => rfl
            | register origin isDef isImplicit =>
                rcases into with ⟨side, number⟩ | number
                · rcases origin with ⟨other, number⟩ | number
                  · cases side <;> cases other <;> rfl
                  · rfl
                · rfl

private theorem pathOfBit_swapSides (descriptor : Descriptor) (bit : Bool) :
    descriptor.swapSides.pathOfBit (bit ^^ descriptor.isMemoryAccess) =
      (descriptor.pathOfBit bit).map CrossPath.opposite := by
  have kept : descriptor.swapSides.isMemoryAccess = descriptor.isMemoryAccess := rfl
  unfold Descriptor.pathOfBit
  rw [kept]
  cases descriptor.isMemoryAccess with
  | true => cases bit <;> rfl
  | false =>
      cases bit with
      | true => exact congrArg some (CrossPath.opposite_data descriptor.side).symm
      | false => rfl

/-- A flexible claim is the opposite one on the other side, where a memory path takes the other bit.
-/
theorem flexibleClaim_swapSides (descriptor : Descriptor) (field : Int64) (bit : Bool) :
    flexibleClaim descriptor.swapSides field (bit ^^ descriptor.isMemoryAccess) =
      (flexibleClaim descriptor field bit).map Claim.swapSides := by
  unfold flexibleClaim
  rw [pathOfBit_swapSides]
  cases UnitKind.ofIndex (FormatField.kindIndex field) <;> rfl

private theorem withFormatField_swapSides (field : Int64) :
    (instruction.withFormatField field).swapSides =
      instruction.swapSides.withFormatField field := by
  simp [withFormatField, withLastOperand, swapSides, Operand.swapSides]

/-- The instruction with the other path bit in its format field. -/
def withOppositePathBit (instruction : Instruction) : Instruction :=
  match instruction.formatField? with
  | some field =>
      instruction.withFormatField
        (FormatField.withPathBit field !(FormatField.pathBit field))
  | none => instruction

private theorem withOppositePathBit_withFormatField (field : Int64) (bit : Bool) :
    (instruction.withFormatField (FormatField.withPathBit field bit)).withOppositePathBit =
      instruction.withFormatField (FormatField.withPathBit field !bit) := by
  unfold withOppositePathBit
  simp

/-- Resolving the instruction writes its path bit. -/
def writesPathBit (instruction : Instruction) : Bool :=
  !instruction.descriptor.isPseudo && !instruction.descriptor.isMove && instruction.isFlexible &&
    (fixPathBit instruction).outcome.isOk

/-- The path bit of a flexible instruction is written if its operands call for one and
there is a format field. -/
theorem writesPathBit_of_flexible (real : instruction.descriptor.isPseudo = false)
    (unmoved : instruction.descriptor.isMove = false) (flexible : instruction.isFlexible = true) :
    instruction.writesPathBit =
      (instruction.neededPathBit.outcome.isOk && instruction.formatField?.isSome) := by
  unfold writesPathBit fixPathBit
  simp only [Routine.bind_apply, real, unmoved, flexible, Routine.get_apply, Trail.andThen_ok,
    Trail.after_nil, ↓reduceIte, Routine.liftM_apply, Bool.not_false, Bool.true_and]
  rcases needed : instruction.neededPathBit with ⟨fault | bit, events⟩
  · rfl
  · cases format : instruction.formatField? with
    | none =>
        simp only [Trail.andThen_ok, Routine.bind_apply, setCrossPath_of_none flexible format]
        rfl
    | some field =>
        simp only [Trail.andThen_ok, Routine.bind_apply, setCrossPath_apply flexible format]
        rfl

/-- The instruction on the other side has the claim there or the same fault, and what it
leaves behind exchanges the sides of what is left behind here, with the other path bit if
one is written in a load or store. -/
theorem claim_and_resolved_swapSides :
    instruction.swapSides.claim = instruction.claim.map Claim.swapSides ∧
      instruction.swapSides.resolved =
        if instruction.writesPathBit && instruction.descriptor.isMemoryAccess then
          instruction.resolved.swapSides.withOppositePathBit
        else instruction.resolved.swapSides := by
  -- Nothing that decides how resolving goes depends on a side, so it goes the same way there.
  have way := instruction.resolution
  unfold claim resolved
  generalize resolve instruction = trail at way ⊢
  cases way with
  | pseudo pseudo =>
      have there : resolve instruction.swapSides = _ := resolve_of_isPseudo pseudo
      have unwritten : instruction.writesPathBit = false := by simp [writesPathBit, pseudo]
      rw [there, unwritten]
      exact ⟨rfl, rfl⟩
  | move real move =>
      have there : resolve instruction.swapSides = _ := resolve_of_isMove real move
      have unwritten : instruction.writesPathBit = false := by simp [writesPathBit, move]
      rw [there, unwritten, Traced.outcome_map, Traced.outcome_map, outcome_moveRoute_swapSides]
      refine ⟨?_, rfl⟩
      cases instruction.moveRoute.outcome <;> rfl
  | fixed real unmoved fixed =>
      have there : resolve instruction.swapSides = _ := resolve_of_fixed real unmoved fixed
      have unwritten : instruction.writesPathBit = false := by simp [writesPathBit, fixed]
      rw [there, unwritten, Traced.outcome_map, Traced.outcome_map,
        outcome_crossPath_swapSides instruction fixed]
      refine ⟨?_, rfl⟩
      cases instruction.crossPath.outcome <;> rfl
  | unneeded real unmoved flexible needed =>
      have neededThere := instruction.neededPathBit_swapSides
      rw [needed, Traced.map_error] at neededThere
      have there : resolve instruction.swapSides = _ :=
        resolve_of_neededPathBit_error real unmoved flexible neededThere
      rw [there, writesPathBit_of_flexible instruction real unmoved flexible, needed]
      exact ⟨rfl, rfl⟩
  | formatless real unmoved flexible needed absent =>
      have neededThere := instruction.neededPathBit_swapSides
      rw [needed, Traced.map_ok] at neededThere
      have there : resolve instruction.swapSides = _ :=
        resolve_of_formatField?_none real unmoved flexible neededThere
          (instruction.formatField?_swapSides.trans absent)
      rw [there, writesPathBit_of_flexible instruction real unmoved flexible, absent, needed]
      exact ⟨rfl, rfl⟩
  | @written bit events field real unmoved flexible needed format =>
      have neededThere := instruction.neededPathBit_swapSides
      rw [needed, Traced.map_ok] at neededThere
      have there : resolve instruction.swapSides = _ :=
        resolve_of_flexible real unmoved flexible neededThere
          (instruction.formatField?_swapSides.trans format)
      -- The bit written there is already the opposite one in a load or store.
      rw [there, writesPathBit_of_flexible instruction real unmoved flexible, format, needed,
        withFormatField_swapSides, withOppositePathBit_withFormatField]
      refine ⟨flexibleClaim_swapSides instruction.descriptor field bit, ?_⟩
      cases memory : instruction.descriptor.isMemoryAccess with
      | true => simp [Except.isOk, Except.toBool]
      | false => simp

/-- The claim is the opposite one on the other side. -/
theorem claim_swapSides :
    instruction.swapSides.claim = instruction.claim.map Claim.swapSides :=
  instruction.claim_and_resolved_swapSides.1

/-- The resolved instruction is the opposite one on the other side, save that the bit of a memory
path is the other one. -/
theorem resolved_swapSides :
    instruction.swapSides.resolved =
      if instruction.writesPathBit && instruction.descriptor.isMemoryAccess then
        instruction.resolved.swapSides.withOppositePathBit
      else instruction.resolved.swapSides :=
  instruction.claim_and_resolved_swapSides.2

/-- A load of a register on side B takes path T2, and on the other side path T1. -/
example : loadAcross.resolved.formatField? = some 7 ∧
    loadAcross.swapSides.resolved.formatField? = some 6 := by decide

/-- The path bit of every flexible instruction that resolves is written. -/
theorem writesPathBit_of_resolves (resolves : instruction.Resolves) :
    instruction.writesPathBit = (!instruction.descriptor.isPseudo &&
      !instruction.descriptor.isMove && instruction.isFlexible) := by
  obtain ⟨claim, claims⟩ := resolves
  have way := instruction.resolution
  unfold Instruction.claim at claims
  generalize resolve instruction = trail at way claims
  cases way with
  | pseudo pseudo => simp [writesPathBit, pseudo]
  | move _ move => simp [writesPathBit, move]
  | fixed _ _ fixed => simp [writesPathBit, fixed]
  | unneeded | formatless => cases claims
  | written real unmoved flexible needed format =>
      rw [writesPathBit_of_flexible instruction real unmoved flexible, needed, format, real,
        unmoved, flexible]
      rfl

/-- The instruction that takes the place of a resolved one when the sides are exchanged. -/
def counterpart (instruction : Instruction) : Instruction :=
  if !instruction.descriptor.isPseudo && !instruction.descriptor.isMove &&
      instruction.isFlexible && instruction.descriptor.isMemoryAccess then
    instruction.swapSides.withOppositePathBit
  else instruction.swapSides

/-- What resolves is resolved to the counterpart on the other side. -/
theorem resolved_swapSides_of_resolves (resolves : instruction.Resolves) :
    instruction.swapSides.resolved = instruction.resolved.counterpart := by
  have kept : instruction.resolved.isFlexible = instruction.isFlexible := by
    rw [isFlexible, descriptor_resolved, isFlexible]
  rw [resolved_swapSides, writesPathBit_of_resolves instruction resolves, counterpart,
    descriptor_resolved, kept]

/-- What resolves does so on the other side too. -/
theorem resolves_swapSides : instruction.swapSides.Resolves ↔ instruction.Resolves := by
  unfold Resolves
  rw [claim_swapSides]
  cases instruction.claim <;> simp [Except.map]

end Instruction

end VliwPack
