import VliwPack.Occupancy
import VliwPack.Resolution
import VliwPack.Stats

/-! # The hazard recognizer

A recognizer holds the occupancy of the cycle being filled and the statistics so
far. For each candidate a scheduler asks whether it fits (`classify`), and then
either books it (`emit`) or begins a new cycle (`advance`). Nothing is ever taken
back.

Classifying and emitting resolve the candidate, so they also leave an instruction
behind, the candidate with its path bit fixed.
-/

namespace VliwPack

/-- The cycle being filled and the statistics so far. -/
structure Recognizer where
  occupancy : Occupancy := .empty
  stats : Stats := {}

namespace Recognizer

/-- A recognizer together with a candidate instruction. -/
abbrev WithCandidate : Type := Recognizer × Instruction

/-- Counts the conflict a check has found, if it has found one. -/
def countVerdict (recognizer : Recognizer) : Option Conflict → Recognizer
  | none => recognizer
  | some conflict => { recognizer with stats := recognizer.stats.countConflict conflict }

/-- Checks a claim against the cycle. The verdict is the conflict found, if any. -/
def check (claim : Claim) : Routine Recognizer (Option Conflict) := do
  let recognizer ← get
  let verdict := recognizer.occupancy.conflict? claim
  set (recognizer.countVerdict verdict)
  Traced.report (.checked verdict)
  return verdict

/-- Books a claim. A claim on a unit that has issued is a fault. -/
def book (claim : Claim) : Routine Recognizer Unit := do
  let recognizer ← get
  let occupancy ← recognizer.occupancy.book claim
  set { recognizer with occupancy, stats := recognizer.stats.countClaim claim : Recognizer }
  Traced.report (.booked claim)

/-- Begins a new cycle, in which nothing is taken. -/
def advance : Routine Recognizer Unit := do
  Traced.report .advanced
  modify fun recognizer =>
    { occupancy := .empty
      stats := { recognizer.stats with cycles := recognizer.stats.cycles + 1 } }

/-- Inserts an empty cycle. -/
def insertNoop : Routine Recognizer Unit := do
  modify fun recognizer =>
    { recognizer with
      stats := { recognizer.stats with noopCycles := recognizer.stats.noopCycles + 1 } }
  advance

/-- Begins a new region. The statistics are kept. -/
def reset (recognizer : Recognizer) : Recognizer := { recognizer with occupancy := .empty }

/-- Counts a bundle. -/
def countBundle (recognizer : Recognizer) : Recognizer :=
  { recognizer with
    stats := { recognizer.stats with bundles := recognizer.stats.bundles + 1 } }

/-- Works on the recognizer and leaves the candidate alone. -/
def aside {α : Type} (routine : Routine Recognizer α) : Routine WithCandidate α :=
  fun (recognizer, candidate) =>
    let trail := routine recognizer
    ⟨trail.toTraced, (trail.state, candidate)⟩

/-- Resolves the candidate and leaves the recognizer alone. -/
def resolve : Routine WithCandidate Claim :=
  fun (recognizer, candidate) =>
    let trail := Instruction.resolve candidate
    ⟨trail.toTraced, (recognizer, trail.state)⟩

/-- Resolves the candidate and checks its claim. -/
def classify : Routine WithCandidate (Option Conflict) := do
  let claim ← resolve
  Traced.report (.classified (← get).2.name claim)
  aside (check claim)

/-- Resolves the candidate and books its claim. -/
def emit : Routine WithCandidate Claim := do
  let claim ← resolve
  aside (book claim)
  return claim

end Recognizer

end VliwPack
