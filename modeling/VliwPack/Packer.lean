import VliwPack.Recognizer
import VliwPack.Schedule

/-! # Packing a region

A region is packed in order, each instruction into the earliest cycle that is not
before the one of its predecessor and in which it fits. A cycle is closed when it
holds as many instructions as may issue together, or when the next instruction
has a conflict. Pseudo instructions join the current bundle and take no slot.

The first instruction whose claim cannot be resolved ends packing. What has been
announced by then stays announced.
-/

namespace VliwPack

/-- Where in the region the packer stands. -/
structure Cursor where
  /-- Current cycle. -/
  cycle : Nat := 0
  /-- Instructions issued in the current cycle. -/
  issued : Nat := 0
  /-- A bundle has been begun for the current cycle. -/
  isOpen : Bool := false
  deriving DecidableEq

/-- Cycles spanned so far. -/
def Cursor.span (cursor : Cursor) : Nat := if cursor.isOpen then cursor.cycle + 1 else 0

/-- The state of packing between two instructions of a region. -/
structure Packing where
  recognizer : Recognizer
  cursor : Cursor := {}

namespace Packing

/-- Lets the recognizer handle a candidate, and gives back the candidate with its
path bit fixed. -/
def handle {α : Type} (routine : Routine Recognizer.WithCandidate α) (candidate : Instruction) :
    Routine Packing (Instruction × α) :=
  fun packing =>
    let trail := routine (packing.recognizer, candidate)
    ⟨⟨trail.outcome.map (trail.state.2, ·), trail.events⟩,
      { packing with recognizer := trail.state.1 }⟩

/-- Begins the next cycle. -/
def nextCycle : Routine Packing Unit :=
  fun packing =>
    let trail := Recognizer.advance packing.recognizer
    ⟨trail.toTraced, ⟨trail.state, { cycle := packing.cursor.cycle + 1 }⟩⟩

/-- Announces an instruction in the current cycle, after the beginning of its
bundle if it is the first. -/
def announce (instruction : Instruction) : Routine Packing (List BundleCall) := do
  let packing ← get
  if packing.cursor.isOpen then
    return [.push instruction]
  else
    set { recognizer := packing.recognizer.countBundle
          cursor := { packing.cursor with isOpen := true } : Packing }
    return [.begin packing.cursor.cycle, .push instruction]

/-- Passes a pseudo instruction through. -/
def placePseudo (instruction : Instruction) : Routine Packing (List BundleCall) := do
  let (instruction, claim) ← handle Recognizer.emit instruction
  Traced.report (.pseudoPlaced instruction.name claim)
  announce instruction

/-- Finds the cycle of an instruction: the current one if the instruction fits,
else the next one. An instruction that does not fit the next cycle fits none. -/
def findCycle (instruction : Instruction) : Routine Packing Instruction := do
  let (instruction, verdict) ← handle Recognizer.classify instruction
  if verdict.isNone then
    return instruction
  else
    nextCycle
    let (instruction, verdict) ← handle Recognizer.classify instruction
    if verdict.isNone then
      return instruction
    else
      Traced.fail (.unschedulable instruction.name)

/-- Issues an instruction, at most `width` in a cycle. -/
def issue (width : Nat) (instruction : Instruction) : Routine Packing (List BundleCall) := do
  if width ≤ (← get).cursor.issued then
    Traced.report (.widthReached width)
    nextCycle
  let instruction ← findCycle instruction
  let (instruction, claim) ← handle Recognizer.emit instruction
  Traced.report (.placed instruction.name claim (← get).cursor.cycle)
  let calls ← announce instruction
  modify fun packing =>
    { packing with cursor := { packing.cursor with issued := packing.cursor.issued + 1 } }
  return calls

/-- Places the next instruction of a region. -/
def place (width : Nat) (instruction : Instruction) : Routine Packing (List BundleCall) :=
  if instruction.descriptor.isPseudo then placePseudo instruction else issue width instruction

end Packing

/-- What packing a region gives. -/
structure PackResult where
  /-- The cycles spanned, or the fault that ended packing. -/
  outcome : Except Fault Nat
  /-- The bundles announced. -/
  calls : List BundleCall
  events : List Event
  /-- The recognizer after the region. -/
  recognizer : Recognizer

namespace PackResult

/-- The bundles announced, as a schedule. -/
def schedule (result : PackResult) : Schedule := Schedule.ofCalls result.calls

/-- A result with calls and events before its own. -/
def after (calls : List BundleCall) (events : List Event) (result : PackResult) : PackResult :=
  { result with calls := calls ++ result.calls, events := events ++ result.events }

end PackResult

/-- Packs the rest of a region. -/
def Packing.run (width : Nat) : Packing → List Instruction → PackResult
  | packing, [] =>
      { outcome := .ok packing.cursor.span, calls := [], events := []
        recognizer := packing.recognizer }
  | packing, instruction :: rest =>
      match Packing.place width instruction packing with
      | ⟨⟨.ok calls, events⟩, next⟩ => (run width next rest).after calls events
      | ⟨⟨.error fault, events⟩, last⟩ =>
          { outcome := .error fault, calls := [], events, recognizer := last.recognizer }

/-- Packs a region, at most `width` instructions in a cycle. The region starts
with an empty cycle, whatever the recognizer did before. -/
def Recognizer.pack (recognizer : Recognizer) (width : Nat) (region : List Instruction) :
    PackResult :=
  Packing.run width { recognizer := recognizer.reset } region

end VliwPack
