import VliwPack.Proofs.Resolution.Idempotence
import VliwPack.Recognizer

/-! # What the operations of a recognizer do

One equation for each operation and each way it can end gives its whole trail: the
outcome, the events, the recognizer and the candidate it leaves behind.
-/

namespace VliwPack.Recognizer

variable {recognizer : Recognizer} {instruction : Instruction} {claim : Claim} {fault : Fault}

/-- Counting a verdict keeps the occupancy. -/
@[simp] theorem occupancy_countVerdict (recognizer : Recognizer) (verdict : Option Conflict) :
    (recognizer.countVerdict verdict).occupancy = recognizer.occupancy := by
  cases verdict <;> rfl

/-- There is nothing to count where there is no conflict. -/
theorem countVerdict_none (recognizer : Recognizer) : recognizer.countVerdict none = recognizer :=
  rfl

/-- Checking a claim counts the conflict found and leaves the occupancy alone. -/
theorem check_apply (recognizer : Recognizer) (claim : Claim) :
    check claim recognizer =
      ⟨⟨.ok (recognizer.occupancy.conflict? claim),
          [.checked (recognizer.occupancy.conflict? claim)]⟩,
        recognizer.countVerdict (recognizer.occupancy.conflict? claim)⟩ := by
  simp [check, Routine.bind_apply]

/-- Booking a claim counts it. -/
theorem book_apply_of_ok {occupancy : Occupancy}
    (booked : recognizer.occupancy.book claim = .ok occupancy) :
    book claim recognizer =
      ⟨⟨.ok (), [.booked claim]⟩, ⟨occupancy, recognizer.stats.countClaim claim⟩⟩ := by
  simp [book, Routine.bind_apply, booked]

/-- A claim that cannot be booked leaves the recognizer alone. -/
theorem book_apply_of_error (refused : recognizer.occupancy.book claim = .error fault) :
    book claim recognizer = ⟨⟨.error fault, []⟩, recognizer⟩ := by
  simp [book, Routine.bind_apply, refused]

/-- A new cycle is empty, and is counted. -/
theorem advance_apply (recognizer : Recognizer) :
    advance recognizer =
      ⟨⟨.ok (), [.advanced]⟩,
        ⟨.empty, { recognizer.stats with cycles := recognizer.stats.cycles + 1 }⟩⟩ := by
  simp [advance, Routine.bind_apply]

/-- An empty cycle is counted as such and as a cycle. -/
theorem insertNoop_apply (recognizer : Recognizer) :
    insertNoop recognizer =
      ⟨⟨.ok (), [.advanced]⟩,
        ⟨.empty, { recognizer.stats with
          noopCycles := recognizer.stats.noopCycles + 1
          cycles := recognizer.stats.cycles + 1 }⟩⟩ := by
  simp [insertNoop, Routine.bind_apply, advance_apply]

/-! ### Operations on a candidate -/

/-- A candidate with a claim is resolved to it. -/
theorem resolve_apply_of_claim (claims : instruction.claim = .ok claim) :
    resolve (recognizer, instruction) =
      ⟨⟨.ok claim, (Instruction.resolve instruction).events⟩,
        (recognizer, instruction.resolved)⟩ := by
  rw [← claims]
  rfl

/-- A candidate without a claim is a fault. -/
theorem resolve_apply_of_fault (fails : instruction.claim = .error fault) :
    resolve (recognizer, instruction) =
      ⟨⟨.error fault, (Instruction.resolve instruction).events⟩,
        (recognizer, instruction.resolved)⟩ := by
  rw [← fails]
  rfl

/-- Classifying a candidate gives the first conflict of its claim. -/
theorem classify_apply_of_claim (claims : instruction.claim = .ok claim) :
    classify (recognizer, instruction) =
      ⟨⟨.ok (recognizer.occupancy.conflict? claim),
          (Instruction.resolve instruction).events ++
            [.classified instruction.name claim,
              .checked (recognizer.occupancy.conflict? claim)]⟩,
        (recognizer.countVerdict (recognizer.occupancy.conflict? claim),
          instruction.resolved)⟩ := by
  simp [classify, Routine.bind_apply, resolve_apply_of_claim claims, aside, check_apply]

/-- A candidate with a fault is resolved as far as it goes, and the recognizer is left alone. -/
theorem classify_apply_of_fault (fails : instruction.claim = .error fault) :
    classify (recognizer, instruction) =
      ⟨⟨.error fault, (Instruction.resolve instruction).events⟩,
        (recognizer, instruction.resolved)⟩ := by
  simp [classify, Routine.bind_apply, resolve_apply_of_fault fails]

/-- Emitting a candidate books its claim, if that can be booked. -/
theorem emit_apply_of_claim (recognizer : Recognizer) (claims : instruction.claim = .ok claim) :
    emit (recognizer, instruction) =
      ⟨⟨(book claim recognizer).outcome.map fun _ => claim,
          (Instruction.resolve instruction).events ++ (book claim recognizer).events⟩,
        ((book claim recognizer).state, instruction.resolved)⟩ := by
  rcases booking : book claim recognizer with ⟨⟨_ | _, events⟩, next⟩ <;>
    simp [emit, Routine.bind_apply, resolve_apply_of_claim claims, aside, booking, Except.map]

/-- Emitting a candidate books its claim. -/
theorem emit_apply_of_ok {occupancy : Occupancy} (claims : instruction.claim = .ok claim)
    (booked : recognizer.occupancy.book claim = .ok occupancy) :
    emit (recognizer, instruction) =
      ⟨⟨.ok claim, (Instruction.resolve instruction).events ++ [.booked claim]⟩,
        (⟨occupancy, recognizer.stats.countClaim claim⟩, instruction.resolved)⟩ := by
  rw [emit_apply_of_claim recognizer claims, book_apply_of_ok booked]
  rfl

/-- A candidate with a fault is resolved as far as it goes, and nothing is booked. -/
theorem emit_apply_of_fault (fails : instruction.claim = .error fault) :
    emit (recognizer, instruction) =
      ⟨⟨.error fault, (Instruction.resolve instruction).events⟩,
        (recognizer, instruction.resolved)⟩ := by
  simp [emit, Routine.bind_apply, resolve_apply_of_fault fails]

end VliwPack.Recognizer
