import VliwPack.Instruction

/-! # Bundles and schedules

A bundle holds the instructions that issue together in one cycle. A packer
announces bundles one call at a time: it begins a bundle, then pushes the
bundle's instructions. A schedule is what such calls build.
-/

namespace VliwPack

/-- The instructions that issue in one cycle, counted from the start of the
region. The count has no largest value, where a machine word has. -/
structure Bundle where
  cycle : Nat
  instructions : List Instruction := []
  deriving DecidableEq

namespace Bundle

/-- The instructions of a bundle that occupy an issue slot. -/
def issued (bundle : Bundle) : List Instruction :=
  bundle.instructions.filter fun instruction => !instruction.descriptor.isPseudo

end Bundle

/-- A step in the announcement of bundles. -/
inductive BundleCall where
  /-- A bundle begins in this cycle. -/
  | begin (cycle : Nat)
  /-- The instruction joins the bundle last begun. -/
  | push (instruction : Instruction)
  deriving DecidableEq

/-- A region as a sequence of bundles. -/
structure Schedule where
  bundles : List Bundle := []
  deriving DecidableEq

namespace Schedule

/-- Bundles with the instruction added to the last of them. Without a bundle, one
in cycle 0 is begun for it. -/
def pushLast (instruction : Instruction) : List Bundle → List Bundle
  | [] => [⟨0, [instruction]⟩]
  | [last] => [{ last with instructions := last.instructions ++ [instruction] }]
  | bundle :: rest => bundle :: pushLast instruction rest

/-- The schedule after one more call. -/
def accept (schedule : Schedule) : BundleCall → Schedule
  | .begin cycle => { bundles := schedule.bundles ++ [⟨cycle, []⟩] }
  | .push instruction => { bundles := pushLast instruction schedule.bundles }

/-- The schedule that calls build. -/
def ofCalls (calls : List BundleCall) : Schedule := calls.foldl accept {}

/-- Cycles from the start of the region to the last bundle. A 64-bit count of them
agrees unless the last bundle begins in cycle `2 ^ 64 - 1`, where it has no room for
one more. A packer advances at most once for each instruction, so no region of fewer
instructions than that brings it there. -/
def cycles (schedule : Schedule) : Nat :=
  match schedule.bundles.getLast? with
  | some last => last.cycle + 1
  | none => 0

/-- The instructions of all bundles, in order. -/
def instructions (schedule : Schedule) : List Instruction :=
  schedule.bundles.flatMap Bundle.instructions

/-- Number of instructions. -/
def size (schedule : Schedule) : Nat := schedule.instructions.length

/-- No instruction is scheduled. -/
def isEmpty (schedule : Schedule) : Bool := schedule.size == 0

end Schedule

end VliwPack
