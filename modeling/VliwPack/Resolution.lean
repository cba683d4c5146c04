import VliwPack.Instruction
import VliwPack.Traced

/-! # Resolving an instruction's claim

The claim of an instruction depends only on its descriptor and operands. A fixed
instruction names its unit in the descriptor and needs a data path when one of
its leading registers lies on the other side. A flexible instruction names its
unit and its path in the format field; resolving it first writes the path bit its
operands call for. A move draws on its destination side's move budget.
-/

namespace VliwPack

/-- How the sides of an instruction's leading registers agree. -/
inductive OperandSides where
  /-- There is no register among them. -/
  | unsided
  /-- All registers lie on one side. -/
  | uniform (side : Side)
  /-- A register disagrees with the first one, whose side this is. -/
  | mixed (first : Side)
  deriving DecidableEq

namespace OperandSides

/-- Two registers disagree. -/
def isMixed : OperandSides → Bool
  | mixed _ => true
  | unsided | uniform _ => false

/-- The side of the first register. -/
def first? : OperandSides → Option Side
  | unsided => none
  | uniform side | mixed side => some side

/-- An instruction that issues on the side reads across the data path. -/
def needsDataPath (sides : OperandSides) (side : Side) : Bool :=
  match sides with
  | unsided => false
  | uniform own => own != side
  | mixed _ => true

/-- The sides of the registers among operands, from what the operands before them
gave. The scan ends at the first register that disagrees, so a virtual register
is a fault only before that. -/
def scan (mnemonic : String) (position : Nat) (sofar : OperandSides) :
    List Operand → Traced OperandSides
  | [] => pure sofar
  | operand :: rest =>
      match operand.register? with
      | none => scan mnemonic (position + 1) sofar rest
      | some reg => do
          let side ← reg.requireSide mnemonic
          match sofar.first? with
          | none => scan mnemonic (position + 1) (uniform side) rest
          | some first =>
              if first = side then
                scan mnemonic (position + 1) sofar rest
              else
                Traced.report (.operandSideDiffers mnemonic position)
                return mixed first

end OperandSides

namespace Instruction

/-- How many leading operands decide whether an instruction reads across. -/
def sideOperands : Nat := 3

/-- The sides of the leading registers. -/
def operandSides (instruction : Instruction) : Traced OperandSides :=
  OperandSides.scan instruction.name 0 .unsided (instruction.operands.take sideOperands)

/-- The unit the instruction issues on. -/
def functionalUnit (instruction : Instruction) : Except Fault FunctionalUnit := do
  let kind ←
    if instruction.isFlexible then instruction.formatUnit else pure instruction.descriptor.unit
  return ⟨kind, instruction.descriptor.side⟩

/-- The cross path the instruction claims, its path bit as it stands. -/
def crossPath (instruction : Instruction) : Traced (Option CrossPath) := do
  let descriptor := instruction.descriptor
  if instruction.isFlexible then
    let bit ← instruction.pathBit
    if descriptor.isMemoryAccess then
      return some (.address bit)
    else
      return if bit then some (.data descriptor.side) else none
  else if descriptor.isMemoryAccess then
    Traced.fail (.fixedMemoryAccess instruction.name)
  else if descriptor.isCall then
    return none
  else
    let sides ← instruction.operandSides
    if sides.needsDataPath descriptor.side then
      let path := CrossPath.data descriptor.side
      Traced.report (.dataPathNeeded instruction.name path)
      return some path
    else
      return none

/-- The destination side of a move, and the data path into it when the source
lies on the other side. -/
def moveRoute (instruction : Instruction) : Traced (Side × Option CrossPath) :=
  match instruction.operands with
  | .register destination true _ :: .register source _ _ :: _ => do
      let destinationSide ← destination.requireSide instruction.name
      let sourceSide ← source.requireSide instruction.name
      Traced.report (.moveSides instruction.name sourceSide destinationSide)
      return (destinationSide,
        if sourceSide = destinationSide then none else some (.data destinationSide))
  | _ => Traced.fail (.malformedMove instruction.name)

/-- The register whose side selects the memory path: what a store reads, what a
load writes. -/
def memoryRegister (instruction : Instruction) : Except Fault Register :=
  if instruction.descriptor.isStore then
    match instruction.operands with
    | _ :: _ :: .register reg false _ :: _ => .ok reg
    | _ => .error (.malformedMemoryAccess instruction.name .storeData)
  else
    match instruction.operands with
    | .register reg true false :: _ => .ok reg
    | _ => .error (.malformedMemoryAccess instruction.name .loadDestination)

/-- The path bit the operands of a flexible instruction call for: a load or store
follows its register's side, all else sets the bit to read across. -/
def neededPathBit (instruction : Instruction) : Traced Bool := do
  if instruction.descriptor.isMemoryAccess then
    let reg ← instruction.memoryRegister
    return (← reg.requireSide instruction.name) = .b
  else
    return (← instruction.operandSides).needsDataPath instruction.descriptor.side

/-- Writes the path bit and tells whether it changed. -/
def setPathBit (bit : Bool) : Routine Instruction Bool := do
  let instruction ← get
  let before ← instruction.pathBit
  set (← instruction.withPathBit bit)
  return before != bit

/-- Writes the path bit of a flexible instruction and tells whether it changed.
A fixed instruction stays as it is. -/
def setCrossPath (bit : Bool) : Routine Instruction Bool := do
  let instruction ← get
  if instruction.isFlexible then
    let changed ← setPathBit bit
    if changed then
      Traced.report (.pathBitSet instruction.name bit)
    return changed
  else
    Traced.report (.pathBitRefused instruction.name)
    return false

/-- Writes the path bit that the operands of a flexible instruction call for. -/
def fixPathBit : Routine Instruction Unit := do
  let instruction ← get
  if instruction.isFlexible then
    let bit ← instruction.neededPathBit
    let _ ← setCrossPath bit

/-- The claim of an instruction, once its path bit is fixed. -/
def resolve : Routine Instruction Claim := do
  let instruction ← get
  if instruction.descriptor.isPseudo then
    return .pseudo
  else if instruction.descriptor.isMove then
    let (side, path) ← instruction.moveRoute
    return .move side path
  else
    fixPathBit
    let fixed ← get
    let unit ← fixed.functionalUnit
    let path ← fixed.crossPath
    return .unit unit path

end Instruction

end VliwPack
