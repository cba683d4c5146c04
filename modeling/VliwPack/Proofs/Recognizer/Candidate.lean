import VliwPack.Proofs.Recognizer.Operations

/-! # What is booked is what was checked

A candidate is resolved when it is classified and once more when it is emitted, and the
first time may write its path bit. The second time changes nothing, and ends as the first
time did, with the same claim or the same fault (`Recognizer.resolve_settled`). Whatever a
driver does in between, the claim that is booked is the one that was checked, since both
are read off the candidate alone (`Recognizer.book_of_classify`).
-/

namespace VliwPack.Recognizer

open Instruction

variable {instruction : Instruction} {claim : Claim} {fault : Fault}

/-- Classifying a candidate with a claim checks that claim, and emitting what is left of the
candidate books that claim, in whatever state the recognizer is by then. -/
theorem book_of_classify (recognizer later : Recognizer) (claims : instruction.claim = .ok claim) :
    let classified := classify (recognizer, instruction)
    let emitted := emit (later, classified.state.2)
    classified.outcome = (check claim recognizer).outcome ∧
      emitted.outcome = (book claim later).outcome.map (fun _ => claim) ∧
      emitted.state = ((book claim later).state, classified.state.2) := by
  have again : instruction.resolved.claim = .ok claim := instruction.claim_resolved.trans claims
  dsimp only
  rw [classify_apply_of_claim claims, check_apply, emit_apply_of_claim later again,
    resolved_resolved]
  exact ⟨rfl, rfl, rfl⟩

/-- A candidate without a claim is refused with the same fault both times. -/
theorem refuse_of_classify (recognizer later : Recognizer)
    (fails : instruction.claim = .error fault) :
    let classified := classify (recognizer, instruction)
    let emitted := emit (later, classified.state.2)
    classified.outcome = .error fault ∧ emitted.outcome = .error fault ∧
      emitted.state = (later, classified.state.2) := by
  have again : instruction.resolved.claim = .error fault := instruction.claim_resolved.trans fails
  dsimp only
  rw [classify_apply_of_fault fails, emit_apply_of_fault again, resolved_resolved]
  exact ⟨rfl, rfl, rfl⟩

/-- Resolving an instruction a second time ends with the same claim or fault and leaves the
instruction as the first time left it. The first time changes at most the path bit of a
flexible instruction that is neither pseudo nor a move, and nothing if it ends with a
fault other than that of an unknown unit. So what an emission books or is refused for is
what the classification before it checked or was refused for. -/
theorem resolve_settled (instruction : Instruction) :
    (instruction.resolved.claim = instruction.claim ∧
        instruction.resolved.resolved = instruction.resolved) ∧
      EqualButPathBit instruction instruction.resolved ∧
      (∀ fault, instruction.claim = .error fault → (∀ index, fault ≠ .unknownUnitIndex index) →
        instruction.resolved = instruction) ∧
      ∀ recognizer later,
        let classified := classify (recognizer, instruction)
        let emitted := emit (later, classified.state.2)
        (∀ claim, instruction.claim = .ok claim →
          classified.outcome = (check claim recognizer).outcome ∧
            emitted.outcome = (book claim later).outcome.map (fun _ => claim) ∧
            emitted.state = ((book claim later).state, classified.state.2)) ∧
          ∀ fault, instruction.claim = .error fault →
            classified.outcome = .error fault ∧ emitted.outcome = .error fault ∧
              emitted.state = (later, classified.state.2) := by
  refine ⟨instruction.claim_and_resolved_resolved, instruction.equalButPathBit_resolved,
    fun fault fails early => resolved_eq_self_of_fault fails early, fun recognizer later => ?_⟩
  exact ⟨fun claim claims => book_of_classify recognizer later claims,
    fun fault fails => refuse_of_classify recognizer later fails⟩

/-- An addition whose format field names no unit, with the path bit not set. -/
def unknownAddition : Instruction := (flexibleAddition .b).withFormatField (-2)

/-- A bad format field has its path bit written, a copy is emitted as it was classified, and a move
without operands stays as it is. -/
theorem resolve_settled_additions :
    (unknownAddition.claim = .error (.unknownUnitIndex (-1)) ∧
        unknownAddition.resolved = (flexibleAddition .b).withFormatField (-1) ∧
        unknownAddition.resolved.claim = .error (.unknownUnitIndex (-1)) ∧
        unknownAddition.resolved.resolved = unknownAddition.resolved) ∧
      ((copy .a).claim = .ok (.move .a none) ∧
        (emit ({}, (classify ({}, copy .a)).state.2)).outcome = .ok (.move .a none)) ∧
      let broken : Instruction := { copy .a with operands := [] }
      broken.claim = .error (.malformedMove "mv") ∧ broken.resolved = broken := by
  obtain ⟨⟨claims, settled⟩, -, -, -⟩ := resolve_settled unknownAddition
  obtain ⟨-, -, -, booked⟩ := resolve_settled (copy .a)
  obtain ⟨-, -, kept, -⟩ := resolve_settled { copy .a with operands := [] }
  refine ⟨⟨rfl, rfl, claims, settled⟩, ⟨rfl, ?_⟩, rfl, kept _ rfl (by simp)⟩
  exact ((booked {} {}).1 _ rfl).2.1

end VliwPack.Recognizer
