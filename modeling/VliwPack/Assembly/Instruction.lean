import VliwPack.Resolution

/-! # An instruction's text

An instruction is written as its predicate, mnemonic, unit field and operands. The
unit field names the unit and the cross path; moves have none, since any free unit
may carry them out. The format field of a flexible instruction is never written.

A load or store writes its base and offset as one address. An immediate offset
puts its sign before the base and its magnitude after it, so that `*B4`, `*+B4(8)`
and `*-A15(4)` are addresses; any other offset is written as it is.
-/

namespace VliwPack.Instruction

/-- The name of a physical register; the named instruction must not write a
virtual one. -/
def physicalText (instruction : Instruction) (reg : Register) : Except Fault String := do
  let _ ← reg.requireSide instruction.name
  return reg.text

/-- An operand's text. -/
def operandText (instruction : Instruction) : Operand → Except Fault String
  | .register reg _ _ => instruction.physicalText reg
  | .immediate value => .ok (toString value.toInt)
  | .basicBlock label => .ok label
  | .globalAddress symbol => .ok symbol
  | .externalSymbol symbol => .ok symbol
  | .jumpTableIndex index => .ok (toString index.toNat)

/-- The operands that are encoded: all, except for a format field. -/
def encodedOperands (instruction : Instruction) : List Operand :=
  if instruction.isFlexible then instruction.operands.dropLast else instruction.operands

/-- What an offset puts before and after the base of its address. -/
def offsetText (instruction : Instruction) : Operand → Except Fault (String × String)
  | .immediate value =>
      let offset := value.toInt
      if offset = 0 then .ok ("", "")
      else .ok (if offset < 0 then "-" else "+", "(" ++ toString offset.natAbs ++ ")")
  | other => do
      let text ← instruction.operandText other
      return ("", "(" ++ text ++ ")")

/-- The text of an address. -/
def addressText (instruction : Instruction) (base offset : Operand) : Except Fault String := do
  let base ← instruction.operandText base
  let (before, after) ← instruction.offsetText offset
  return "*" ++ before ++ base ++ after

/-- The operands of a load or store: the place read comes first. -/
def memoryOperandTexts (instruction : Instruction) : Except Fault (List String) :=
  if instruction.descriptor.isStore then
    match instruction.encodedOperands with
    | base :: offset :: source :: _ => do
        let source ← instruction.operandText source
        let address ← instruction.addressText base offset
        return [source, address]
    | _ => .error (.malformedMemoryAccess instruction.name .storeOperands)
  else
    match instruction.encodedOperands with
    | destination :: base :: offset :: _ => do
        let address ← instruction.addressText base offset
        let destination ← instruction.operandText destination
        return [address, destination]
    | _ => .error (.malformedMemoryAccess instruction.name .loadOperands)

/-- The texts of the operands, in the order they are written. -/
def operandTexts (instruction : Instruction) : Except Fault (List String) :=
  if instruction.descriptor.isMemoryAccess then
    instruction.memoryOperandTexts
  else
    instruction.encodedOperands.mapM instruction.operandText

/-- The predicate of an instruction that accepts one. -/
def predicateText (instruction : Instruction) : Except Fault String :=
  match instruction.predicate with
  | some predicate =>
      if instruction.descriptor.isPredicable then do
        let reg ← instruction.physicalText predicate.reg
        return "[" ++ (if predicate.isNegated then "!" else " ") ++ reg ++ "]"
      else
        .ok ""
  | none => .ok ""

/-- What a cross path adds to a unit's name: an address path its own name, a data
path a cross. -/
def pathMark : Option CrossPath → String
  | some path => if path.isAddress then path.text else "X"
  | none => ""

/-- The unit field of an instruction other than a move. -/
def unitText? (instruction : Instruction) : Traced (Option String) := do
  if instruction.descriptor.isMove then
    return none
  else
    let unit ← instruction.functionalUnit
    let path ← instruction.crossPath
    return some (unit.text ++ pathMark path)

/-- The text of an instruction, after the mark that starts its line. -/
def text (instruction : Instruction) : Traced String := do
  let predicate ← instruction.predicateText
  let unit ← instruction.unitText?
  let operands ← instruction.operandTexts
  let unitField := match unit with
    | some unit => "\t." ++ unit
    | none => ""
  let operandField :=
    if operands.isEmpty then "" else "\t" ++ String.intercalate ", " operands
  return predicate ++ "\t" ++ instruction.name ++ unitField ++ operandField

end VliwPack.Instruction
