import VliwPack.Proofs.Assembly.Parts
import VliwPack.Proofs.Assembly.UnitField
import VliwPack.Proofs.Resolution.Description

/-! # What can still fail in printing

Resolving looks at some of an instruction's registers and printing at others. Printing a part
of an instruction fails exactly if one of its registers is virtual (`Needs`), and a load or
store also fails if it has too few operands to form an address. Once an instruction has been
resolved its unit field can be written, so these are the only faults left
(`Instruction.resolved_prints_iff`). A store that resolves is flexible, and the register it
stores stands before the format field, so it has operands enough.
-/

namespace VliwPack

/-- The register has not been allocated. -/
def Register.isVirtual : Register → Bool
  | .physical .. => false
  | .virtual _ => true

/-- The operand is a register that has not been allocated. -/
def Operand.isVirtual (operand : Operand) : Bool := operand.register?.any Register.isVirtual

variable {α β : Type} {mnemonic : String} {condition other : Prop}

/-- The outcome is a value if the condition holds, and otherwise the fault of a virtual
register. -/
inductive Needs (mnemonic : String) (condition : Prop) : Except Fault α → Prop
  | met {value : α} (holds : condition) : Needs mnemonic condition (.ok value)
  | unmet {number : UInt32} (fails : ¬ condition) :
      Needs mnemonic condition (.error (.virtualRegister mnemonic number))

namespace Needs

/-- There is a value exactly if the condition holds. -/
theorem exists_ok_iff {outcome : Except Fault α} (needs : Needs mnemonic condition outcome) :
    (∃ value, outcome = .ok value) ↔ condition := by
  cases needs with
  | met holds => exact iff_of_true ⟨_, rfl⟩ holds
  | unmet fails => exact iff_of_false (fun ⟨_, ends⟩ => nomatch ends) fails

/-- What it fails on is a virtual register of the instruction. -/
theorem fault_eq {outcome : Except Fault α} (needs : Needs mnemonic condition outcome)
    {fault : Fault} (ends : outcome = .error fault) :
    ∃ number, fault = .virtualRegister mnemonic number := by
  cases needs with
  | met holds => cases ends
  | unmet fails =>
      cases ends
      exact ⟨_, rfl⟩

private theorem congr {outcome : Except Fault α} (same : condition ↔ other)
    (needs : Needs mnemonic condition outcome) : Needs mnemonic other outcome := by
  cases needs with
  | met holds => exact .met (same.mp holds)
  | unmet fails => exact .unmet fun also => fails (same.mpr also)

/-- What follows a value adds its own condition. -/
theorem bind {first : Except Fault α} {next : α → Except Fault β}
    (head : Needs mnemonic condition first) (tail : ∀ value, Needs mnemonic other (next value)) :
    Needs mnemonic (condition ∧ other) (first >>= next) := by
  cases head with
  | unmet fails => exact .unmet fun both => fails both.1
  | @met value holds => exact (tail value).congr (and_iff_right holds).symm

private theorem bind_pure {first : Except Fault α} (head : Needs mnemonic condition first)
    (step : α → β) : Needs mnemonic condition (first >>= fun value => pure (step value)) :=
  (head.bind fun _ => .met trivial).congr (iff_of_eq (and_true _))

/-- A list of steps needs what each of them needs. -/
theorem mapM {holds : α → Prop} {step : α → Except Fault β}
    (each : ∀ element, Needs mnemonic (holds element) (step element)) (list : List α) :
    Needs mnemonic (∀ element ∈ list, holds element) (list.mapM step) := by
  induction list with
  | nil => exact .met fun _ member => nomatch member
  | cons element rest ih =>
      rw [List.mapM_cons]
      refine Needs.congr List.forall_mem_cons.symm ?_
      exact (each element).bind fun _ => ih.bind_pure _

end Needs

namespace Instruction

variable {instruction : Instruction} {unit : Option String} {mark : String}

/-! ### What each part needs -/

private theorem needs_physicalText (instruction : Instruction) (register : Register) :
    Needs instruction.name (register.isVirtual = false) (instruction.physicalText register) := by
  cases register with
  | physical side number => exact .met rfl
  | «virtual» number => exact .unmet nofun

private theorem needs_operandText (instruction : Instruction) (operand : Operand) :
    Needs instruction.name (operand.isVirtual = false) (instruction.operandText operand) := by
  cases operand with
  | register register isDef isImplicit => exact instruction.needs_physicalText register
  | immediate | basicBlock | globalAddress | externalSymbol | jumpTableIndex => exact .met rfl

private theorem needs_offsetText (instruction : Instruction) (offset : Operand) :
    Needs instruction.name (offset.isVirtual = false) (instruction.offsetText offset) := by
  unfold offsetText
  split
  next value =>
    dsimp only
    split <;> exact .met rfl
  next => exact (instruction.needs_operandText offset).bind_pure _

private theorem needs_addressText (instruction : Instruction) (base offset : Operand) :
    Needs instruction.name (base.isVirtual = false ∧ offset.isVirtual = false)
      (instruction.addressText base offset) :=
  (instruction.needs_operandText base).bind fun _ =>
    (instruction.needs_offsetText offset).bind_pure _

/-- An address and a register are printed from the first three operands. -/
theorem needs_memoryOperandTexts (enough : 3 ≤ instruction.encodedOperands.length) :
    Needs instruction.name
      (∀ operand ∈ instruction.encodedOperands.take 3, operand.isVirtual = false)
      instruction.memoryOperandTexts := by
  unfold memoryOperandTexts
  generalize instruction.encodedOperands = encoded at enough ⊢
  obtain _ | ⟨first, _ | ⟨second, _ | ⟨third, rest⟩⟩⟩ := encoded
  · simp at enough
  · simp at enough
  · simp at enough
  · simp only [List.take_succ_cons, List.take_zero, List.forall_mem_cons, List.not_mem_nil,
      false_implies, implies_true, and_true]
    split
    · refine Needs.congr ?_ ((instruction.needs_operandText third).bind fun _ =>
        (instruction.needs_addressText first second).bind_pure _)
      rw [and_comm, and_assoc]
    · refine Needs.congr ?_ ((instruction.needs_addressText second third).bind fun _ =>
        (instruction.needs_operandText first).bind_pure _)
      rw [and_comm]

private theorem memoryOperandTexts_of_few (few : instruction.encodedOperands.length < 3) :
    ∃ defect, instruction.memoryOperandTexts =
      .error (.malformedMemoryAccess instruction.name defect) := by
  unfold memoryOperandTexts
  generalize instruction.encodedOperands = encoded at few ⊢
  obtain _ | ⟨first, _ | ⟨second, _ | ⟨third, rest⟩⟩⟩ := encoded
  · split <;> exact ⟨_, rfl⟩
  · split <;> exact ⟨_, rfl⟩
  · split <;> exact ⟨_, rfl⟩
  · simp only [List.length_cons] at few
    omega

/-- The operands that are printed; of a load or store, those of its address and register. -/
def printedOperands (instruction : Instruction) : List Operand :=
  if instruction.descriptor.isMemoryAccess then instruction.encodedOperands.take 3
  else instruction.encodedOperands

/-- The operand texts need every printed operand not to be virtual. -/
theorem needs_operandTexts (enough : instruction.descriptor.isMemoryAccess = true →
      3 ≤ instruction.encodedOperands.length) :
    Needs instruction.name (∀ operand ∈ instruction.printedOperands, operand.isVirtual = false)
      instruction.operandTexts := by
  unfold operandTexts printedOperands
  split
  next access => exact needs_memoryOperandTexts (enough access)
  next => exact Needs.mapM instruction.needs_operandText _

private theorem needs_predicateText (instruction : Instruction) :
    Needs instruction.name
      (instruction.descriptor.isPredicable = true →
        ∀ predicate ∈ instruction.predicate, predicate.reg.isVirtual = false)
      instruction.predicateText := by
  unfold predicateText
  split
  next predicate given =>
    split
    next predicable =>
      refine Needs.congr ?_ ((instruction.needs_physicalText predicate.reg).bind_pure _)
      simp [given, predicable]
    next unpredicated => exact .met fun predicable => absurd predicable unpredicated
  next absent => exact .met fun _ predicate given => nomatch absent ▸ given

/-! ### The whole line -/

/-- Nothing that is printed of the instruction is a virtual register, and a load or store has
the operands of an address. -/
structure Printable (instruction : Instruction) : Prop where
  predicate : instruction.descriptor.isPredicable = true →
    ∀ predicate ∈ instruction.predicate, predicate.reg.isVirtual = false
  access : instruction.descriptor.isMemoryAccess = true → 3 ≤ instruction.encodedOperands.length
  operands : ∀ operand ∈ instruction.printedOperands, operand.isVirtual = false

private theorem outcome_text_of_unitText? (written : instruction.unitText?.outcome = .ok unit) :
    instruction.text.outcome = do
      let predicate ← instruction.predicateText
      let operands ← instruction.operandTexts
      return instruction.assembled predicate unit operands := by
  rw [outcome_text, written]
  rfl

/-- An instruction is printed exactly if it is printable, as long as its unit is and it has enough
operands. -/
theorem needs_text (written : instruction.unitText?.outcome = .ok unit)
    (enough : instruction.descriptor.isMemoryAccess = true →
      3 ≤ instruction.encodedOperands.length) :
    Needs instruction.name instruction.Printable instruction.text.outcome := by
  rw [outcome_text_of_unitText? written]
  refine Needs.congr ?_ (instruction.needs_predicateText.bind fun _ =>
    (needs_operandTexts enough).bind_pure _)
  exact ⟨fun ⟨predicate, operands⟩ => ⟨predicate, enough, operands⟩,
    fun printable => ⟨printable.predicate, printable.operands⟩⟩

/-- A load or store that is too short fails at its address, or before at its predicate. -/
theorem outcome_text_of_few (written : instruction.unitText?.outcome = .ok unit)
    (access : instruction.descriptor.isMemoryAccess = true)
    (few : instruction.encodedOperands.length < 3) :
    ∃ fault, instruction.text.outcome = .error fault ∧
      ((∃ number, fault = .virtualRegister instruction.name number) ∨
        ∃ defect, fault = .malformedMemoryAccess instruction.name defect) := by
  obtain ⟨defect, short⟩ := memoryOperandTexts_of_few few
  rw [outcome_text_of_unitText? written, operandTexts, if_pos access, short]
  cases condition : instruction.predicateText with
  | error fault => exact ⟨fault, rfl, .inl (instruction.needs_predicateText.fault_eq condition)⟩
  | ok predicate => exact ⟨_, rfl, .inr ⟨defect, rfl⟩⟩

private theorem prints_iff_of_unitText? (written : instruction.unitText?.outcome = .ok unit) :
    (∃ text, instruction.text.outcome = .ok text) ↔ instruction.Printable := by
  by_cases enough : instruction.descriptor.isMemoryAccess = true →
      3 ≤ instruction.encodedOperands.length
  · exact (needs_text written enough).exists_ok_iff
  · refine iff_of_false ?_ fun printable => enough printable.access
    obtain ⟨access, few⟩ := Classical.not_imp.mp enough
    obtain ⟨fault, fails, -⟩ := outcome_text_of_few written access (Nat.lt_of_not_le few)
    simp [fails]

private theorem fault_of_unitText? (written : instruction.unitText?.outcome = .ok unit)
    {fault : Fault} (fails : instruction.text.outcome = .error fault) :
    (∃ number, fault = .virtualRegister instruction.name number) ∨
      ∃ defect, fault = .malformedMemoryAccess instruction.name defect ∧
        instruction.descriptor.isMemoryAccess = true ∧ instruction.encodedOperands.length < 3 := by
  by_cases enough : instruction.descriptor.isMemoryAccess = true →
      3 ≤ instruction.encodedOperands.length
  · exact .inl ((needs_text written enough).fault_eq fails)
  · obtain ⟨access, few⟩ := Classical.not_imp.mp enough
    have few := Nat.lt_of_not_le few
    obtain ⟨other, ends, kind⟩ := outcome_text_of_few written access few
    cases fails.symm.trans ends
    exact kind.imp_right fun ⟨defect, same⟩ => ⟨defect, same, access, few⟩

/-! ### After resolving -/

/-- The unit field of an instruction that resolves can be written. -/
theorem exists_unitText?_resolved (real : instruction.descriptor.isPseudo = false)
    (resolves : instruction.Resolves) :
    ∃ unit, instruction.resolved.unitText?.outcome = .ok unit := by
  obtain ⟨claim, claims⟩ := resolves
  have kept := instruction.claim_resolved.trans claims
  cases claiming_of_claim claims with
  | pseudo pseudo => simp [real] at pseudo
  | move _ move =>
      refine ⟨none, ?_⟩
      rw [unitText?, descriptor_resolved, if_pos move]
      rfl
  | fixed | written => exact ⟨_, unitText?_of_claim kept instruction.resolved_resolved⟩

/-- The register that a store reads stands before its format field. -/
theorem three_le_of_store (real : instruction.descriptor.isPseudo = false)
    (unmoved : instruction.descriptor.isMove = false)
    (store : instruction.descriptor.isStore = true)
    (access : instruction.descriptor.isMemoryAccess = true) (resolves : instruction.Resolves) :
    3 ≤ instruction.encodedOperands.length := by
  obtain ⟨claim, claims⟩ := resolves
  cases claiming_of_claim claims with
  | pseudo pseudo => simp [real] at pseudo
  | move _ move => simp [unmoved] at move
  | fixed _ _ fixed crosses =>
      rw [outcome_crossPath_of_fixed fixed, if_pos access] at crosses
      cases crosses
  | @written _ field _ _ _ flexible needed format =>
      obtain ⟨side, number, data⟩ := (sided_iff.mpr ⟨_, needed⟩).data access
      rw [dataRegister?, if_pos store] at data
      obtain ⟨operand, found, reads⟩ := Option.bind_eq_some_iff.mp data
      rw [encodedOperands, if_pos flexible]
      rw [operands_of_formatField? format] at found
      by_contra few
      -- Operand 2 would be the format field, which is no register.
      rw [List.getElem?_append_right (by omega)] at found
      obtain rfl := List.mem_singleton.mp (List.mem_of_getElem? found)
      cases reads

private theorem Printable.congr {first second : Instruction}
    (descriptor : second.descriptor = first.descriptor)
    (predicate : second.predicate = first.predicate)
    (encoded : second.encodedOperands = first.encodedOperands) (printable : first.Printable) :
    second.Printable where
  predicate := by
    rw [descriptor, predicate]
    exact printable.predicate
  access := by
    rw [descriptor, encoded]
    exact printable.access
  operands := by
    rw [printedOperands, descriptor, encoded]
    exact printable.operands

/-- Resolving does not change what is printable. -/
theorem printable_resolved (instruction : Instruction) :
    instruction.resolved.Printable ↔ instruction.Printable := by
  have descriptor := instruction.descriptor_resolved
  have predicate := instruction.predicate_resolved
  have encoded := instruction.encodedOperands_resolved
  exact ⟨.congr descriptor.symm predicate.symm encoded.symm, .congr descriptor predicate encoded⟩

/-- An instruction that is not pseudo and resolves is printed after resolving, whatever mark
starts its line, exactly if no predicate that it accepts and no operand that it prints is a
virtual register and, for a load or store, the encoded operands are at least three. Otherwise
the fault is that of a virtual register or of a load or store without an address, and the
latter is never that of a store that is no move. -/
theorem resolved_prints_iff (real : instruction.descriptor.isPseudo = false)
    (resolves : instruction.Resolves) (mark : String) :
    ((∃ line, (instruction.resolved.lineAfter mark).outcome = .ok line) ↔
        instruction.Printable) ∧
      (∀ fault, (instruction.resolved.lineAfter mark).outcome = .error fault →
        (∃ number, fault = .virtualRegister instruction.name number) ∨
          ∃ defect, fault = .malformedMemoryAccess instruction.name defect) ∧
      (instruction.descriptor.isStore = true → instruction.descriptor.isMove = false →
        ∀ mnemonic defect, (instruction.resolved.lineAfter mark).outcome ≠
          .error (.malformedMemoryAccess mnemonic defect)) := by
  obtain ⟨unit, written⟩ := exists_unitText?_resolved real resolves
  refine ⟨?_, ?_, ?_⟩
  · rw [← printable_resolved, ← prints_iff_of_unitText? written]
    simp [outcome_lineAfter_eq_ok_iff]
  · intro fault fails
    rw [outcome_lineAfter_eq_error_iff] at fails
    have kind := fault_of_unitText? written fails
    rw [name_resolved] at kind
    exact kind.imp_right fun ⟨defect, same, _⟩ => ⟨defect, same⟩
  · intro store unmoved mnemonic defect fails
    rw [outcome_lineAfter_eq_error_iff] at fails
    rcases fault_of_unitText? written fails with ⟨_, same⟩ | ⟨_, -, access, few⟩
    · cases same
    · rw [descriptor_resolved] at access
      rw [encodedOperands_resolved] at few
      have enough := three_le_of_store real unmoved store access resolves
      omega

/-- A load on unit D1 to side B of what stands at the base. -/
def loadFrom (base : Register) : Instruction :=
  { loadAcross with operands := loadAcross.operands.set 1 (.use base) }

/-- Only the side of its destination is looked at to resolve a load. -/
theorem resolved_prints_iff_loadFrom :
    (loadFrom (.virtual 7)).Resolves ∧ ¬ (loadFrom (.virtual 7)).Printable ∧
      ((loadFrom (.virtual 7)).resolved.lineAfter "\t").outcome =
        .error (.virtualRegister "ldw" 7) ∧
      (loadFrom (.physical .a 4)).Printable ∧
      ((loadFrom (.physical .a 4)).resolved.lineAfter "\t").outcome =
        .ok "\t\tldw\t.D1T2\t*A4, B3" := by
  have resolves (base : Register) : (loadFrom base).Resolves := ⟨_, rfl⟩
  have fails : ((loadFrom (.virtual 7)).resolved.lineAfter "\t").outcome =
      .error (.virtualRegister "ldw" 7) := by decide
  have prints : ((loadFrom (.physical .a 4)).resolved.lineAfter "\t").outcome =
      .ok "\t\tldw\t.D1T2\t*A4, B3" := by decide
  obtain ⟨iffPrintable, -, -⟩ := resolved_prints_iff rfl (resolves (.virtual 7)) "\t"
  obtain ⟨alsoIff, -, -⟩ := resolved_prints_iff rfl (resolves (.physical .a 4)) "\t"
  refine ⟨resolves _, ?_, fails, alsoIff.mp ⟨_, prints⟩, prints⟩
  rw [← iffPrintable, fails]
  exact nofun

end Instruction

end VliwPack
