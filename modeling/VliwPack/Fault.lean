import VliwPack.Register

/-! # Faults

A fault says why an instruction cannot be scheduled or printed, or why a request
names no resource. Every fault is a defect of the request; none goes away when
the same request is made again.
-/

namespace VliwPack

/-- What is wrong with the operands of a load or store. -/
inductive MemoryDefect where
  /-- Operand 2 of a store is not a register that is read. -/
  | storeData
  /-- Operand 0 of a load is not an explicit register that is written. -/
  | loadDestination
  /-- A store has fewer than three operands to print. -/
  | storeOperands
  /-- A load has fewer than three operands to print. -/
  | loadOperands
  deriving DecidableEq

/-- What a load or store should have had. -/
def MemoryDefect.message : MemoryDefect → String
  | storeData => "store operand 2 must be a register use"
  | loadDestination => "load operand 0 must be an explicit register def"
  | storeOperands => "store needs base, offset and data operands"
  | loadOperands => "load needs destination, base and offset operands"

/-- Why a request is refused. The mnemonic of the instruction at fault is
`mnemonic`. -/
inductive Fault where
  /-- A virtual register stands where a side is needed. -/
  | virtualRegister (mnemonic : String) (number : UInt32)
  /-- The last operand is not an immediate, so there is no format field. -/
  | missingFormatField (mnemonic : String)
  /-- No unit kind has this number. -/
  | unknownUnitIndex (index : Int)
  /-- No cross path has this number. -/
  | unknownCrossPath (index : Nat)
  /-- A move lacks its written destination register or its source register. -/
  | malformedMove (mnemonic : String)
  /-- A load or store has operands of the wrong shape. -/
  | malformedMemoryAccess (mnemonic : String) (defect : MemoryDefect)
  /-- A load or store has its unit hard-wired. -/
  | fixedMemoryAccess (mnemonic : String)
  /-- A frame setup lacks its immediate size. -/
  | malformedFrame (mnemonic : String)
  /-- An instruction does not fit even an empty cycle. -/
  | unschedulable (mnemonic : String)
  /-- A text is not a register name. -/
  | invalidRegister (name : String)
  /-- A unit that has already issued is booked again in the same cycle. -/
  | bookedTwice (unit : FunctionalUnit)
  deriving DecidableEq

/-- The one-line report of a fault. -/
def Fault.message : Fault → String
  | virtualRegister mnemonic number =>
      s!"{mnemonic}: virtual register %v{number.toNat} where a physical register is required"
  | missingFormatField mnemonic =>
      s!"{mnemonic}: flexible instruction has no trailing format operand"
  | unknownUnitIndex index => s!"unknown functional unit index {index}"
  | unknownCrossPath index => s!"unknown cross-path index {index}"
  | malformedMove mnemonic =>
      s!"{mnemonic}: move needs a defined register destination and a register source"
  | malformedMemoryAccess mnemonic defect => s!"{mnemonic}: {defect.message}"
  | fixedMemoryAccess mnemonic => s!"{mnemonic}: memory access on a fixed-unit instruction"
  | malformedFrame mnemonic => s!"{mnemonic}: frame setup needs an immediate frame size"
  | unschedulable mnemonic => s!"{mnemonic}: hazard in an empty cycle"
  | invalidRegister name => s!"invalid register name `{name}`"
  | bookedTwice unit => s!"{unit.text} booked twice in one cycle"

/-! ### Looking up what a request names -/

/-- The kind a number encodes, or a fault with that number. -/
def UnitKind.ofIndex (index : Int) : Except Fault UnitKind :=
  match ofIndex? index with
  | some kind => .ok kind
  | none => .error (.unknownUnitIndex index)

/-- The unit at a position, or a fault with the number of its missing kind. -/
def FunctionalUnit.ofIndex (index : Nat) : Except Fault FunctionalUnit :=
  match ofIndex? index with
  | some unit => .ok unit
  | none => .error (.unknownUnitIndex (index / 2 : Nat))

/-- The cross path at a position, or a fault with that position. -/
def CrossPath.ofIndex (index : Nat) : Except Fault CrossPath :=
  match ofIndex? index with
  | some path => .ok path
  | none => .error (.unknownCrossPath index)

/-- The register with a given name, or a fault with that name. -/
def Register.ofName (name : String) : Except Fault Register :=
  match ofName? name with
  | some register => .ok register
  | none => .error (.invalidRegister name)

/-- The side of a register that the named instruction needs; a virtual register
is a fault. -/
def Register.requireSide (mnemonic : String) : Register → Except Fault Side
  | physical side _ => .ok side
  | virtual number => .error (.virtualRegister mnemonic number)

end VliwPack
