import VliwPack.Proofs.Resolution.FormatField
import VliwPack.Proofs.Routine

/-! # What resolving an instruction gives

`Instruction.claim` is the outcome of resolving an instruction and
`Instruction.resolved` the instruction that resolving leaves behind. One equation
for each kind of instruction says what both are: pseudo instructions, moves, fixed
instructions, and flexible ones, whose path bit is written before the claim is
read off the format field. `Instruction.resolution` is the case analysis over them.
-/

namespace VliwPack

/-- The cross path that a path bit stands for: a memory path in a load or store,
and in all else the data path or none. -/
def Descriptor.pathOfBit (descriptor : Descriptor) (bit : Bool) : Option CrossPath :=
  if descriptor.isMemoryAccess then some (.address bit)
  else if bit then some (.data descriptor.side) else none

namespace Instruction

/-- The claim of the instruction, or the fault that resolving it ends with. -/
def claim (instruction : Instruction) : Except Fault Claim := (resolve instruction).outcome

/-- The instruction that resolving leaves behind. -/
def resolved (instruction : Instruction) : Instruction := (resolve instruction).state

/-- The instruction has a claim. -/
def Resolves (instruction : Instruction) : Prop := ∃ claim, instruction.claim = .ok claim

instance (instruction : Instruction) : Decidable instruction.Resolves :=
  match outcome : instruction.claim with
  | .ok claim => isTrue ⟨claim, outcome⟩
  | .error _ => isFalse fun ⟨_, claims⟩ => nomatch outcome.symm.trans claims

/-- The outcome of resolving a flexible instruction whose format field is given and
whose path bit has been fixed. -/
def flexibleClaim (descriptor : Descriptor) (field : Int64) (bit : Bool) : Except Fault Claim :=
  (UnitKind.ofIndex (FormatField.kindIndex field)).map fun kind =>
    .unit ⟨kind, descriptor.side⟩ (descriptor.pathOfBit bit)

variable {instruction : Instruction} {field : Int64} {bit : Bool} {fault : Fault}
  {events : List Event}

/-- What has a fault does not resolve. -/
theorem not_resolves_of_fault (fails : instruction.claim = .error fault) :
    ¬ instruction.Resolves := by
  rintro ⟨claim, claims⟩
  rw [fails] at claims
  cases claims

/-- What does not resolve has a fault. -/
theorem exists_fault_of_not_resolves (stuck : ¬ instruction.Resolves) :
    ∃ fault, instruction.claim = .error fault := by
  cases claims : instruction.claim with
  | error fault => exact ⟨fault, rfl⟩
  | ok claim => exact absurd ⟨claim, claims⟩ stuck

/-! ### Reading and writing the path bit -/

/-- A format field that is there is found. -/
theorem formatField_of_formatField? (format : instruction.formatField? = some field) :
    instruction.formatField = .ok field := by
  rw [formatField, format]

/-- A format field that is not there is reported missing. -/
theorem formatField_of_none (absent : instruction.formatField? = none) :
    instruction.formatField = .error (.missingFormatField instruction.name) := by
  rw [formatField, absent]

/-- The path bit is that of the format field. -/
theorem pathBit_of_formatField? (format : instruction.formatField? = some field) :
    instruction.pathBit = .ok (FormatField.pathBit field) := by
  rw [pathBit, formatField_of_formatField? format]
  rfl

private theorem withPathBit_of_formatField? (format : instruction.formatField? = some field)
    (bit : Bool) :
    instruction.withPathBit bit =
      .ok (instruction.withFormatField (FormatField.withPathBit field bit)) := by
  rw [withPathBit, formatField_of_formatField? format]
  rfl

/-- The unit kind is the one that the format field numbers. -/
theorem formatUnit_of_formatField? (format : instruction.formatField? = some field) :
    instruction.formatUnit = UnitKind.ofIndex (FormatField.kindIndex field) := by
  rw [formatUnit, formatField_of_formatField? format]
  rfl

/-- Writing the path bit tells whether it was another one before. -/
theorem setPathBit_apply (format : instruction.formatField? = some field) (bit : Bool) :
    setPathBit bit instruction =
      ⟨⟨.ok (FormatField.pathBit field != bit), []⟩,
        instruction.withFormatField (FormatField.withPathBit field bit)⟩ := by
  simp [setPathBit, Routine.bind_apply, pathBit_of_formatField? format,
    withPathBit_of_formatField? format]

/-- Without a format field there is no path bit to write. -/
theorem setPathBit_of_none (absent : instruction.formatField? = none) (bit : Bool) :
    setPathBit bit instruction =
      ⟨⟨.error (.missingFormatField instruction.name), []⟩, instruction⟩ := by
  have unread : instruction.pathBit = .error (.missingFormatField instruction.name) := by
    rw [pathBit, formatField_of_none absent]
    rfl
  simp [setPathBit, Routine.bind_apply, unread]

/-- Writing the path bit of a flexible instruction reports it when it was another one before. -/
theorem setCrossPath_apply (flexible : instruction.isFlexible = true)
    (format : instruction.formatField? = some field) (bit : Bool) :
    setCrossPath bit instruction =
      ⟨⟨.ok (FormatField.pathBit field != bit),
          if FormatField.pathBit field != bit then [.pathBitSet instruction.name bit] else []⟩,
        instruction.withFormatField (FormatField.withPathBit field bit)⟩ := by
  cases changed : FormatField.pathBit field != bit <;>
    simp [setCrossPath, Routine.bind_apply, flexible, changed, setPathBit_apply format]

/-- Without a format field no path bit is written. -/
theorem setCrossPath_of_none (flexible : instruction.isFlexible = true)
    (absent : instruction.formatField? = none) (bit : Bool) :
    setCrossPath bit instruction =
      ⟨⟨.error (.missingFormatField instruction.name), []⟩, instruction⟩ := by
  simp [setCrossPath, Routine.bind_apply, flexible, setPathBit_of_none absent]

/-! ### The equations of `resolve` -/

/-- A pseudo instruction claims nothing. -/
theorem resolve_of_isPseudo (pseudo : instruction.descriptor.isPseudo = true) :
    resolve instruction = ⟨⟨.ok .pseudo, []⟩, instruction⟩ := by
  simp [resolve, Routine.bind_apply, pseudo]

/-- A pseudo instruction claims nothing. -/
theorem claim_of_isPseudo (pseudo : instruction.descriptor.isPseudo = true) :
    instruction.claim = .ok .pseudo := by
  rw [claim, resolve_of_isPseudo pseudo]

/-- A pseudo instruction is resolved as it is. -/
theorem resolved_of_isPseudo (pseudo : instruction.descriptor.isPseudo = true) :
    instruction.resolved = instruction := by
  rw [resolved, resolve_of_isPseudo pseudo]

/-- An instruction that does not resolve takes a slot. -/
theorem isPseudo_eq_false_of_fault (fails : instruction.claim = .error fault) :
    instruction.descriptor.isPseudo = false := by
  cases pseudo : instruction.descriptor.isPseudo with
  | false => rfl
  | true =>
      rw [claim_of_isPseudo pseudo] at fails
      cases fails

/-- A move claims its route and is left alone. -/
theorem resolve_of_isMove (real : instruction.descriptor.isPseudo = false)
    (move : instruction.descriptor.isMove = true) :
    resolve instruction =
      ⟨(fun route => .move route.1 route.2) <$> instruction.moveRoute, instruction⟩ := by
  rcases route : instruction.moveRoute with ⟨_ | ⟨side, path⟩, events⟩ <;>
    simp [resolve, Routine.bind_apply, real, move, route]

/-- A fixed instruction claims the unit of its descriptor and is left alone. -/
theorem resolve_of_fixed (real : instruction.descriptor.isPseudo = false)
    (unmoved : instruction.descriptor.isMove = false) (fixed : instruction.isFlexible = false) :
    resolve instruction =
      ⟨(fun path => .unit ⟨instruction.descriptor.unit, instruction.descriptor.side⟩ path) <$>
        instruction.crossPath, instruction⟩ := by
  have unit : instruction.functionalUnit =
      .ok ⟨instruction.descriptor.unit, instruction.descriptor.side⟩ := by
    simp only [functionalUnit, fixed]
    rfl
  rcases path : instruction.crossPath with ⟨_ | path, events⟩ <;>
    simp [resolve, fixPathBit, Routine.bind_apply, real, unmoved, fixed, unit, path]

/-- A flexible instruction whose operands call for no path bit is left alone. -/
theorem resolve_of_neededPathBit_error (real : instruction.descriptor.isPseudo = false)
    (unmoved : instruction.descriptor.isMove = false) (flexible : instruction.isFlexible = true)
    (needed : instruction.neededPathBit = ⟨.error fault, events⟩) :
    resolve instruction = ⟨⟨.error fault, events⟩, instruction⟩ := by
  simp [resolve, fixPathBit, Routine.bind_apply, real, unmoved, flexible, needed]

/-- A flexible instruction without a format field is left alone. -/
theorem resolve_of_formatField?_none (real : instruction.descriptor.isPseudo = false)
    (unmoved : instruction.descriptor.isMove = false) (flexible : instruction.isFlexible = true)
    (needed : instruction.neededPathBit = ⟨.ok bit, events⟩)
    (absent : instruction.formatField? = none) :
    resolve instruction =
      ⟨⟨.error (.missingFormatField instruction.name), events⟩, instruction⟩ := by
  simp [resolve, fixPathBit, Routine.bind_apply, real, unmoved, flexible, needed,
    setCrossPath_of_none flexible absent]

/-- The cross path of a flexible instruction is the one its path bit stands for. -/
theorem crossPath_of_flexible (flexible : instruction.isFlexible = true)
    (format : instruction.formatField? = some field) :
    instruction.crossPath =
      ⟨.ok (instruction.descriptor.pathOfBit (FormatField.pathBit field)), []⟩ := by
  cases memory : instruction.descriptor.isMemoryAccess <;>
    cases bit : FormatField.pathBit field <;>
    simp [crossPath, Descriptor.pathOfBit, flexible, memory, bit,
      pathBit_of_formatField? format, liftM, monadLift, MonadLift.monadLift]

/-- The unit of a flexible instruction is the one its format field names. -/
theorem functionalUnit_of_flexible (flexible : instruction.isFlexible = true)
    (format : instruction.formatField? = some field) :
    instruction.functionalUnit =
      (UnitKind.ofIndex (FormatField.kindIndex field)).map (⟨·, instruction.descriptor.side⟩) := by
  rw [functionalUnit, formatUnit_of_formatField? format]
  simp only [flexible]
  rfl

/-- A flexible instruction claims the unit of its format field and the path its
operands call for. The path bit is written also when the field names no unit. -/
theorem resolve_of_flexible (real : instruction.descriptor.isPseudo = false)
    (unmoved : instruction.descriptor.isMove = false) (flexible : instruction.isFlexible = true)
    (needed : instruction.neededPathBit = ⟨.ok bit, events⟩)
    (format : instruction.formatField? = some field) :
    resolve instruction =
      ⟨⟨flexibleClaim instruction.descriptor field bit,
          events ++
            if FormatField.pathBit field != bit then [.pathBitSet instruction.name bit] else []⟩,
        instruction.withFormatField (FormatField.withPathBit field bit)⟩ := by
  -- The unit and the path are read off the instruction as the writing leaves it.
  let written := instruction.withFormatField (FormatField.withPathBit field bit)
  have writtenFlexible : written.isFlexible = true := flexible
  have writtenFormat := formatField?_withFormatField instruction (FormatField.withPathBit field bit)
  have unit := functionalUnit_of_flexible writtenFlexible writtenFormat
  have path := crossPath_of_flexible writtenFlexible writtenFormat
  rw [FormatField.kindIndex_withPathBit] at unit
  rw [FormatField.pathBit_withPathBit] at path
  rcases kind : UnitKind.ofIndex (FormatField.kindIndex field) with fault | kind <;>
    simp [resolve, fixPathBit, Routine.bind_apply, real, unmoved, flexible, needed,
      setCrossPath_apply flexible format, written, unit, path, kind, flexibleClaim, Except.map]

/-! ### The ways resolving can go -/

/-- How resolving an instruction goes, with the trail it leaves. -/
inductive Resolution (instruction : Instruction) : Trail Instruction Claim → Prop
  | pseudo (pseudo : instruction.descriptor.isPseudo = true) :
      Resolution instruction ⟨⟨.ok .pseudo, []⟩, instruction⟩
  | move (real : instruction.descriptor.isPseudo = false)
      (move : instruction.descriptor.isMove = true) :
      Resolution instruction
        ⟨(fun route => .move route.1 route.2) <$> instruction.moveRoute, instruction⟩
  | fixed (real : instruction.descriptor.isPseudo = false)
      (unmoved : instruction.descriptor.isMove = false)
      (fixed : instruction.isFlexible = false) :
      Resolution instruction
        ⟨(fun path => .unit ⟨instruction.descriptor.unit, instruction.descriptor.side⟩ path) <$>
          instruction.crossPath, instruction⟩
  | unneeded {fault : Fault} {events : List Event}
      (real : instruction.descriptor.isPseudo = false)
      (unmoved : instruction.descriptor.isMove = false)
      (flexible : instruction.isFlexible = true)
      (needed : instruction.neededPathBit = ⟨.error fault, events⟩) :
      Resolution instruction ⟨⟨.error fault, events⟩, instruction⟩
  | formatless {bit : Bool} {events : List Event}
      (real : instruction.descriptor.isPseudo = false)
      (unmoved : instruction.descriptor.isMove = false)
      (flexible : instruction.isFlexible = true)
      (needed : instruction.neededPathBit = ⟨.ok bit, events⟩)
      (absent : instruction.formatField? = none) :
      Resolution instruction
        ⟨⟨.error (.missingFormatField instruction.name), events⟩, instruction⟩
  | written {bit : Bool} {events : List Event} {field : Int64}
      (real : instruction.descriptor.isPseudo = false)
      (unmoved : instruction.descriptor.isMove = false)
      (flexible : instruction.isFlexible = true)
      (needed : instruction.neededPathBit = ⟨.ok bit, events⟩)
      (format : instruction.formatField? = some field) :
      Resolution instruction
        ⟨⟨flexibleClaim instruction.descriptor field bit,
            events ++
              if FormatField.pathBit field != bit then [.pathBitSet instruction.name bit] else []⟩,
          instruction.withFormatField (FormatField.withPathBit field bit)⟩

/-- Resolving goes in one of these ways. -/
theorem resolution (instruction : Instruction) : Resolution instruction (resolve instruction) := by
  cases real : instruction.descriptor.isPseudo with
  | true => rw [resolve_of_isPseudo real]; exact .pseudo real
  | false =>
  cases unmoved : instruction.descriptor.isMove with
  | true => rw [resolve_of_isMove real unmoved]; exact .move real unmoved
  | false =>
  cases flexible : instruction.isFlexible with
  | false => rw [resolve_of_fixed real unmoved flexible]; exact .fixed real unmoved flexible
  | true =>
  rcases needed : instruction.neededPathBit with ⟨fault | bit, events⟩
  · rw [resolve_of_neededPathBit_error real unmoved flexible needed]
    exact .unneeded real unmoved flexible needed
  · cases format : instruction.formatField? with
    | none =>
        rw [resolve_of_formatField?_none real unmoved flexible needed format]
        exact .formatless real unmoved flexible needed format
    | some field =>
        rw [resolve_of_flexible real unmoved flexible needed format]
        exact .written real unmoved flexible needed format

/-! ### Instructions for examples -/

/-- An addition on unit L1, with an operand from a side. -/
def addition (side : Side) : Instruction where
  descriptor := { name := "add", isUnitFixed := true }
  operands := [.define (.physical .a 1), .use (.physical side 2)]

/-- An addition for which the format field selects unit L1, with an operand from a side. -/
def flexibleAddition (side : Side) : Instruction where
  descriptor := { name := "add", isSideSelectable := true }
  operands := [.define (.physical .a 1), .use (.physical side 2), .immediate 0]

/-- A load on unit D1 of a register on side B. -/
def loadAcross : Instruction where
  descriptor := { name := "ldw", isSideSelectable := true, isMemoryAccess := true }
  operands := [.define (.physical .b 3), .use (.physical .a 4), .immediate 0, .immediate 6]

/-- A move within a side. -/
def copy (side : Side) : Instruction where
  descriptor := { name := "mv", isMove := true }
  operands := [.define (.physical side 1), .use (.physical side 2)]

/-- A label, which occupies nothing. -/
def label : Instruction where
  descriptor := { name := "label", isPseudo := true }
  operands := []

end Instruction

end VliwPack
