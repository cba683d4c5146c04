import VliwPack.Datapath
import VliwPack.Numeral

/-! # Registers

A physical register belongs to the file of one side. A virtual register has not
been allocated and so has no side; it can be written down, and an operation that
needs a side refuses it.

A physical register is named by a side letter, of either case, and a canonical
numeral below 32. A virtual register is named by `%v` and a canonical numeral
below 2 ^ 32. Nothing else is a register name.
-/

namespace VliwPack

/-- A register. -/
inductive Register where
  | physical (side : Side) (number : Fin Machine.registersPerSide)
  | virtual (number : UInt32)
  deriving DecidableEq

namespace Register

/-- The side of a physical register. -/
def side? : Register → Option Side
  | physical side _ => some side
  | virtual _ => none

/-- The register with a given name. -/
def read? : List Char → Option Register
  | '%' :: 'v' :: digits => do
      let number ← Numeral.read? digits
      if number < UInt32.size then some (virtual (UInt32.ofNat number)) else none
  | 'A' :: digits | 'a' :: digits => numbered .a digits
  | 'B' :: digits | 'b' :: digits => numbered .b digits
  | _ => none
where
  /-- The register of a side whose number the digits spell. -/
  numbered (side : Side) (digits : List Char) : Option Register := do
    let number ← Numeral.read? digits
    if bound : number < Machine.registersPerSide then some (physical side ⟨number, bound⟩)
    else none

/-- The register with a given name. -/
def ofName? (name : String) : Option Register := read? name.toList

/-- The characters of a register's name, with an upper-case side letter. -/
def name : Register → List Char
  | physical side number => side.letter :: Numeral.digits number.val
  | virtual number => '%' :: 'v' :: Numeral.digits number.toNat

/-- A register is written as its name. -/
def text (register : Register) : String := String.ofList register.name

end Register

end VliwPack
