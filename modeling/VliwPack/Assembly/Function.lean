import VliwPack.Assembly.Instruction
import VliwPack.Assembly.Line
import VliwPack.Schedule

/-! # A function's text

A packed function is printed as its label, perhaps after the number of its cycles,
and then bundle by bundle. Pseudo instructions are comments, except for the two
that stand for code: `prolog` sets up a stack frame and `epilog` takes it down.
Each expands into a fixed sequence between two comments, and code after it in the
same bundle starts a line of its own.
-/

namespace VliwPack.Assembly

/-- The code that sets up a frame of the given size. -/
def frameSetup (size : Int) : List Line :=
  [.code false ("\tmvk\t" ++ toString size ++ ", A0"),
    .code true "\tmv\tB15, A1",
    .code false "\tstw\tA15, *B15",
    .code true "\tstw\tB3, *-A1(4)",
    .code true "\tmv\tB15, A15",
    .code true "\tsub\tB15, A0, B15"]

/-- The code that takes a frame down. -/
def frameTeardown : List Line :=
  [.code false "\tldw\t*-A15(4), B3",
    .code false "\tmv\tA15, B15",
    .code true "\tldw\t*A15, A15",
    .code false "\tnop\t4"]

/-- The code a pseudo instruction stands for, if it stands for code. Operand 0 of
a frame setup is the frame's size. -/
def frame? (instruction : Instruction) : Except Fault (Option (List Line)) :=
  if instruction.name = "prolog" then
    match instruction.operands with
    | .immediate size :: _ => .ok (some (frameSetup size.toInt))
    | _ => .error (.malformedFrame instruction.name)
  else if instruction.name = "epilog" then
    .ok (some frameTeardown)
  else
    .ok none

/-- The lines of a bundle's instructions. `joins` tells whether the next code
joins the code before it. -/
def instructionLines (joins : Bool) : List Instruction → Traced (List Line)
  | [] => return []
  | instruction :: rest => do
      if instruction.descriptor.isPseudo then
        match ← frame? instruction with
        | some lines =>
            let after ← instructionLines false rest
            return .note ("begin " ++ instruction.name) :: lines ++
              .note ("end " ++ instruction.name) :: after
        | none =>
            let after ← instructionLines joins rest
            return .note instruction.name :: after
      else
        let text ← instruction.text
        let after ← instructionLines true rest
        return .code joins text :: after

/-- The lines of bundles. -/
def bundleLines : List Bundle → Traced (List Line)
  | [] => return []
  | bundle :: rest => do
      Traced.report (.printing bundle.cycle bundle.instructions.length)
      let lines ← instructionLines false bundle.instructions
      let after ← bundleLines rest
      return lines ++ after

/-- The lines before the bundles of a function. -/
def headLines (cycleComment : Bool) (name : String) (cycles : Nat) : List Line :=
  if cycleComment then
    [.note ("SCHEDULED CYCLES: " ++ toString cycles), .label name]
  else
    [.label name]

/-- The text of a packed function. -/
def functionText (layout : Layout) (name : String) (schedule : Schedule) : Traced String := do
  let lines ← bundleLines schedule.bundles
  return Line.textAll layout.bundleMode
    (headLines layout.cycleComment name schedule.cycles ++ lines)

end VliwPack.Assembly
