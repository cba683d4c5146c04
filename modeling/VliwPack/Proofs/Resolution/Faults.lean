import VliwPack.Proofs.Resolution.Equations

/-! # The faults of resolving

A fault that resolving ends with is a malformation of the instruction: it does not
depend on the cycle being filled (`isMalformation_of_claim`).
-/

namespace VliwPack

/-- Holds of the faults that the operands of an instruction to be scheduled can
have. -/
def Fault.isMalformation : Fault → Bool
  | virtualRegister .. | missingFormatField .. | unknownUnitIndex .. | malformedMove ..
  | malformedMemoryAccess .. | fixedMemoryAccess .. => true
  | unknownCrossPath .. | malformedFrame .. | unschedulable .. | invalidRegister ..
  | bookedTwice .. => false

private theorem Register.isMalformation_of_requireSide {mnemonic : String} {register : Register}
    {fault : Fault} (fails : register.requireSide mnemonic = .error fault) :
    fault.isMalformation = true := by
  cases register <;> simp only [requireSide, reduceCtorEq, Except.error.injEq] at fails
  subst fails
  rfl

private theorem UnitKind.isMalformation_of_ofIndex {index : Int} {fault : Fault}
    (fails : ofIndex index = .error fault) : fault.isMalformation = true := by
  unfold ofIndex at fails
  split at fails <;> simp only [reduceCtorEq, Except.error.injEq] at fails
  subst fails
  rfl

namespace Traced

variable {α β : Type}

/-- Every fault of the computation is a malformation of the instruction. -/
def OnlyMalformations (traced : Traced α) : Prop :=
  ∀ fault, traced.outcome = .error fault → fault.isMalformation = true

private theorem onlyMalformations_pure (value : α) : OnlyMalformations (pure value) := by
  intro fault fails
  cases fails

private theorem onlyMalformations_fail {fault : Fault}
    (malformation : fault.isMalformation = true) :
    OnlyMalformations (fail fault : Traced α) := by
  intro other fails
  cases fails
  exact malformation

private theorem onlyMalformations_report (event : Event) : OnlyMalformations (report event) := by
  intro fault fails
  cases fails

private theorem onlyMalformations_liftM {outcome : Except Fault α}
    (malformations : ∀ fault, outcome = .error fault → fault.isMalformation = true) :
    OnlyMalformations (liftM outcome) := malformations

private theorem OnlyMalformations.bind {first : Traced α} {next : α → Traced β}
    (head : first.OnlyMalformations) (tail : ∀ value, (next value).OnlyMalformations) :
    (first >>= next).OnlyMalformations := by
  obtain ⟨fault | value, events⟩ := first
  · intro other fails
    cases fails
    exact head fault rfl
  · intro fault fails
    exact tail value fault fails

private theorem OnlyMalformations.map {traced : Traced α} (step : α → β)
    (malformations : traced.OnlyMalformations) : (step <$> traced).OnlyMalformations := by
  obtain ⟨fault | value, events⟩ := traced
  · intro other fails
    cases fails
    exact malformations fault rfl
  · intro fault fails
    simp at fails

end Traced

namespace Instruction

open Traced

variable {instruction : Instruction}

private theorem onlyMalformations_requireSide (mnemonic : String) (register : Register) :
    OnlyMalformations (liftM (register.requireSide mnemonic)) :=
  onlyMalformations_liftM fun _ => Register.isMalformation_of_requireSide

/-- Scanning operands fails on nothing but a malformation, by induction on the operands. -/
private theorem onlyMalformations_scan (mnemonic : String) (operands : List Operand) :
    ∀ position sofar, OnlyMalformations (OperandSides.scan mnemonic position sofar operands) := by
  induction operands with
  | nil => exact fun _ _ => onlyMalformations_pure _
  | cons operand rest ih =>
      intro position sofar
      unfold OperandSides.scan
      split
      · exact ih _ _
      · refine (onlyMalformations_requireSide _ _).bind fun side => ?_
        split
        · exact ih _ _
        · split
          · exact ih _ _
          · exact (onlyMalformations_report _).bind fun _ => onlyMalformations_pure _

private theorem onlyMalformations_moveRoute (instruction : Instruction) :
    OnlyMalformations instruction.moveRoute := by
  unfold moveRoute
  split
  · refine (onlyMalformations_requireSide _ _).bind fun _ => ?_
    refine (onlyMalformations_requireSide _ _).bind fun _ => ?_
    exact (onlyMalformations_report _).bind fun _ => onlyMalformations_pure _
  · exact onlyMalformations_fail rfl

private theorem onlyMalformations_memoryRegister (instruction : Instruction) :
    OnlyMalformations (liftM instruction.memoryRegister) := by
  apply onlyMalformations_liftM
  intro fault fails
  unfold memoryRegister at fails
  split at fails <;> split at fails <;> cases fails <;> rfl

private theorem onlyMalformations_neededPathBit (instruction : Instruction) :
    OnlyMalformations instruction.neededPathBit := by
  unfold neededPathBit
  split
  · refine (onlyMalformations_memoryRegister _).bind fun _ => ?_
    exact (onlyMalformations_requireSide _ _).bind fun _ => onlyMalformations_pure _
  · exact (onlyMalformations_scan _ _ _ _).bind fun _ => onlyMalformations_pure _

private theorem onlyMalformations_crossPath (fixed : instruction.isFlexible = false) :
    OnlyMalformations instruction.crossPath := by
  unfold crossPath
  simp only [fixed, Bool.false_eq_true, ↓reduceIte]
  split
  · exact onlyMalformations_fail rfl
  · split
    · exact onlyMalformations_pure _
    · refine (onlyMalformations_scan _ _ _ _).bind fun _ => ?_
      split
      · exact (onlyMalformations_report _).bind fun _ => onlyMalformations_pure _
      · exact onlyMalformations_pure _

/-- Whatever stops the resolving of an instruction is a malformation of it. -/
theorem isMalformation_of_claim {fault : Fault} (fails : instruction.claim = .error fault) :
    fault.isMalformation = true := by
  have way := instruction.resolution
  unfold claim at fails
  generalize resolve instruction = trail at way fails
  cases way with
  | pseudo => cases fails
  | move => exact (onlyMalformations_moveRoute instruction).map _ fault fails
  | fixed _ _ fixed => exact (onlyMalformations_crossPath fixed).map _ fault fails
  | unneeded _ _ _ needed =>
      cases fails
      exact onlyMalformations_neededPathBit instruction fault (by rw [needed])
  | formatless =>
      cases fails
      rfl
  | @written bit events field =>
      rcases kind : UnitKind.ofIndex (FormatField.kindIndex field) with other | kind <;>
        rw [flexibleClaim, kind] at fails <;> cases fails
      exact UnitKind.isMalformation_of_ofIndex kind

end Instruction

end VliwPack
