import VliwPack.Fault

/-! # Instructions

An instruction is a descriptor of its opcode, a list of operands in encoding
order and perhaps a predicate.

A *flexible* instruction has a side-selectable encoding and no hard-wired unit.
Its last operand is an immediate, the *format field*. Halved and rounded down, the
field is the number of the unit kind; its parity is the *path bit*. Writing the
path bit (`FormatField.withPathBit`) never changes the kind, and scheduling writes
nothing else.
-/

namespace VliwPack

/-- An operand. -/
inductive Operand where
  /-- A register, read or (with `isDef`) written; an implicit one is not encoded. -/
  | register (reg : Register) (isDef : Bool) (isImplicit : Bool)
  | immediate (value : Int64)
  | basicBlock (label : String)
  | globalAddress (symbol : String)
  | externalSymbol (symbol : String)
  | jumpTableIndex (index : UInt32)
  deriving DecidableEq

namespace Operand

/-- An explicit register that is read. -/
def use (reg : Register) : Operand := .register reg false false

/-- An explicit register that is written. -/
def define (reg : Register) : Operand := .register reg true false

/-- The register of a register operand. -/
def register? : Operand → Option Register
  | .register reg _ _ => some reg
  | _ => none

/-- The value of an immediate operand. -/
def immediate? : Operand → Option Int64
  | immediate value => some value
  | _ => none

end Operand

/-- What an opcode says about the resources of its instructions. -/
structure Descriptor where
  /-- Mnemonic. -/
  name : String := ""
  /-- The unit kind of an instruction that is not flexible. -/
  unit : UnitKind := .l
  /-- The unit is hard-wired in the opcode. -/
  isUnitFixed : Bool := false
  /-- The side the instruction issues on. -/
  side : Side := .a
  /-- The encoding lets the side be selected. -/
  isSideSelectable : Bool := false
  /-- Load or store. -/
  isMemoryAccess : Bool := false
  /-- Store; only loads and stores ask. -/
  isStore : Bool := false
  isCall : Bool := false
  /-- Accepts a predicate. -/
  isPredicable : Bool := false
  /-- Register-to-register move. -/
  isMove : Bool := false
  /-- Has no encoding and occupies nothing. -/
  isPseudo : Bool := false
  deriving DecidableEq, Inhabited

/-- The unit is chosen by the format field and not by the opcode. -/
def Descriptor.isFlexible (descriptor : Descriptor) : Bool :=
  !descriptor.isUnitFixed && descriptor.isSideSelectable

/-- An execution condition: the register is not zero or, negated, is zero. -/
structure Predicate where
  reg : Register
  isNegated : Bool := false
  deriving DecidableEq

/-- An instruction. -/
structure Instruction where
  descriptor : Descriptor
  operands : List Operand := []
  predicate : Option Predicate := none
  deriving DecidableEq

/-! ### The format field -/

namespace FormatField

/-- The number of the unit kind. -/
def kindIndex (field : Int64) : Int := field.toInt / 2

/-- The path bit. -/
def pathBit (field : Int64) : Bool := field.toInt % 2 == 1

/-- The field with the same unit kind and the given path bit. -/
def withPathBit (field : Int64) (bit : Bool) : Int64 :=
  Int64.ofInt (2 * kindIndex field + if bit then 1 else 0)

/-- Twice the kind's number and one more for a set bit is again a 64-bit number. -/
theorem toInt_withPathBit (field : Int64) (bit : Bool) :
    (withPathBit field bit).toInt = 2 * kindIndex field + if bit then 1 else 0 := by
  have low := Int64.le_toInt field
  have high := Int64.toInt_lt field
  apply Int64.toInt_ofInt_of_le <;> unfold kindIndex <;> split <;> omega

/-- The path bit is read as it was written. -/
@[simp] theorem pathBit_withPathBit (field : Int64) (bit : Bool) :
    pathBit (withPathBit field bit) = bit := by
  have parity : (2 * kindIndex field + if bit then 1 else 0) % 2 = if bit then 1 else 0 := by
    split <;> omega
  rw [pathBit, toInt_withPathBit, parity]
  cases bit <;> rfl

/-- Writing the path bit keeps the number of the unit kind. -/
@[simp] theorem kindIndex_withPathBit (field : Int64) (bit : Bool) :
    kindIndex (withPathBit field bit) = kindIndex field := by
  have half : (2 * kindIndex field + if bit then 1 else 0) / 2 = kindIndex field := by
    split <;> omega
  rw [kindIndex, toInt_withPathBit, half]

end FormatField

namespace Instruction

/-- The mnemonic. -/
def name (instruction : Instruction) : String := instruction.descriptor.name

/-- An instruction whose unit the format field chooses. -/
def isFlexible (instruction : Instruction) : Bool := instruction.descriptor.isFlexible

/-- The last operand's value, when the last operand is an immediate. -/
def formatField? (instruction : Instruction) : Option Int64 :=
  instruction.operands.getLast?.bind Operand.immediate?

/-- The format field. -/
def formatField (instruction : Instruction) : Except Fault Int64 :=
  match instruction.formatField? with
  | some field => .ok field
  | none => .error (.missingFormatField instruction.name)

/-- The unit kind the format field chooses. -/
def formatUnit (instruction : Instruction) : Except Fault UnitKind := do
  UnitKind.ofIndex (FormatField.kindIndex (← instruction.formatField))

/-- The path bit of the format field. -/
def pathBit (instruction : Instruction) : Except Fault Bool := do
  return FormatField.pathBit (← instruction.formatField)

/-- The instruction with another last operand. -/
def withLastOperand (instruction : Instruction) (operand : Operand) : Instruction :=
  { instruction with operands := instruction.operands.dropLast ++ [operand] }

/-- The instruction with the given path bit in its format field. -/
def withPathBit (instruction : Instruction) (bit : Bool) : Except Fault Instruction := do
  let field ← instruction.formatField
  return instruction.withLastOperand (.immediate (FormatField.withPathBit field bit))

end Instruction

end VliwPack
