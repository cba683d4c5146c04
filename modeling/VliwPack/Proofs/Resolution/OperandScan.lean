import VliwPack.Proofs.Resolution.Equations

/-! # The scan of the leading registers

The scan of the leading operands stops at the first disagreement between two sides. What it
stops at and what it finds is said here of the registers as a list: it fails exactly if a
virtual register comes before two sides disagree (`OperandSides.outcome_scan_eq_error_iff`),
and it tells that an instruction reads across exactly if some register lies on the other side,
wherever in the list (`OperandSides.needsDataPath_iff_of_scan`).
-/

namespace VliwPack

private theorem Side.ne_iff_eq_opposite (one other : Side) :
    one ≠ other ↔ one = other.opposite := by
  cases one <;> cases other <;> decide

private theorem Side.eq_opposite_or_eq_opposite {one other : Side} (differ : one ≠ other)
    (side : Side) :
    one = side.opposite ∨ other = side.opposite := by
  revert differ
  cases one <;> cases other <;> cases side <;> decide

/-! ### The first virtual register of a list -/

namespace Register

/-- Among the registers, in order, the virtual one comes before any that does not lie on
the side. -/
def MeetsFrom (side : Side) (registers : List Register) (number : UInt32) : Prop :=
  ∃ before after, registers = before ++ .virtual number :: after ∧
    ∀ reg ∈ before, reg.side? = some side

/-- Among the registers, in order, the virtual one comes before two that lie on different
sides. -/
def Meets (registers : List Register) (number : UInt32) : Prop :=
  ∃ side, MeetsFrom side registers number

variable {side : Side} {number : UInt32} {reg : Register} {rest : List Register}

private theorem not_meetsFrom_nil : ¬ MeetsFrom side [] number := by
  rintro ⟨before, after, split, -⟩
  simp at split

/-- The virtual register comes first, or after a register on the side. -/
theorem meetsFrom_cons_iff :
    MeetsFrom side (reg :: rest) number ↔
      reg = .virtual number ∨ reg.side? = some side ∧ MeetsFrom side rest number := by
  constructor
  · rintro ⟨_ | ⟨first, before⟩, after, split, sided⟩
    · exact .inl (List.cons.inj split).1
    · obtain ⟨rfl, rfl⟩ := List.cons.inj split
      obtain ⟨here, there⟩ := List.forall_mem_cons.mp sided
      exact .inr ⟨here, before, after, rfl, there⟩
  · rintro (rfl | ⟨here, before, after, rfl, there⟩)
    · exact ⟨[], rest, rfl, fun _ member => nomatch member⟩
    · exact ⟨reg :: before, after, rfl, List.forall_mem_cons.mpr ⟨here, there⟩⟩

end Register

/-! ### The scan of the leading registers -/

namespace OperandSides

open Register

variable {mnemonic : String} {position : Nat} {sofar sides : OperandSides} {first side : Side}
  {operand : Operand} {operands rest : List Operand} {fault : Fault}

private theorem scan_of_register?_none (other : operand.register? = none) :
    scan mnemonic position sofar (operand :: rest) = scan mnemonic (position + 1) sofar rest := by
  rw [scan, other]

private theorem scan_of_virtual {number : UInt32}
    (register : operand.register? = some (.virtual number)) :
    (scan mnemonic position sofar (operand :: rest)).outcome =
      .error (.virtualRegister mnemonic number) := by
  rw [scan, register]
  rfl

private theorem scan_unsided_of_physical {number : Fin Machine.registersPerSide}
    (register : operand.register? = some (.physical side number)) :
    (scan mnemonic position unsided (operand :: rest)).outcome =
      (scan mnemonic (position + 1) (uniform side) rest).outcome := by
  rw [scan, register]
  rfl

private theorem scan_uniform_of_physical {number : Fin Machine.registersPerSide}
    (register : operand.register? = some (.physical side number)) :
    (scan mnemonic position (uniform first) (operand :: rest)).outcome =
      if first = side then (scan mnemonic (position + 1) (uniform first) rest).outcome
      else .ok (mixed first) := by
  rw [scan, register]
  change Traced.outcome (if first = side then _ else _) = _
  split <;> rfl

/-- Once a side is known, the scan is stopped by a virtual register after registers on that
side. -/
theorem outcome_scan_uniform_eq_error_iff :
    (scan mnemonic position (uniform first) operands).outcome = .error fault ↔
      ∃ number, MeetsFrom first (operands.filterMap Operand.register?) number ∧
        fault = .virtualRegister mnemonic number := by
  induction operands generalizing position with
  | nil => simp [scan, not_meetsFrom_nil]
  | cons operand rest ih =>
      cases register : operand.register? with
      | none => rw [scan_of_register?_none register, List.filterMap_cons_none register, ih]
      | some reg =>
          rw [List.filterMap_cons_some register]
          simp only [meetsFrom_cons_iff]
          cases reg with
          | virtual number =>
              rw [scan_of_virtual register]
              simp [side?, eq_comm]
          | physical side number =>
              rw [scan_uniform_of_physical register]
              by_cases agrees : first = side
              · subst agrees
                simp [side?, ih]
              · have differs : side ≠ first := fun same => agrees same.symm
                simp [agrees, side?, differs]

/-- The scan is stopped by a virtual register that comes before two sides disagree. -/
theorem outcome_scan_eq_error_iff :
    (scan mnemonic position unsided operands).outcome = .error fault ↔
      ∃ number, Meets (operands.filterMap Operand.register?) number ∧
        fault = .virtualRegister mnemonic number := by
  induction operands generalizing position with
  | nil => simp [scan, Meets, not_meetsFrom_nil]
  | cons operand rest ih =>
      cases register : operand.register? with
      | none => rw [scan_of_register?_none register, List.filterMap_cons_none register, ih]
      | some reg =>
          rw [List.filterMap_cons_some register]
          simp only [Meets, meetsFrom_cons_iff]
          cases reg with
          | virtual number =>
              rw [scan_of_virtual register]
              simp [side?, eq_comm]
          | physical side number =>
              rw [scan_unsided_of_physical register, outcome_scan_uniform_eq_error_iff]
              simp [side?]

/-- Once a side is known, the scan finds that an instruction reads across if that side is
the other one, or if some register lies there. -/
theorem needsDataPath_iff_of_scan_uniform
    (scanned : (scan mnemonic position (uniform first) operands).outcome = .ok sides) :
    sides.needsDataPath side = true ↔ first = side.opposite ∨
      ∃ reg ∈ operands.filterMap Operand.register?, reg.side? = some side.opposite := by
  induction operands generalizing position with
  | nil =>
      cases scanned
      simp [needsDataPath, Side.ne_iff_eq_opposite]
  | cons operand rest ih =>
      cases register : operand.register? with
      | none =>
          rw [scan_of_register?_none register] at scanned
          rw [List.filterMap_cons_none register, ih scanned]
      | some reg =>
          rw [List.filterMap_cons_some register]
          cases reg with
          | virtual number =>
              rw [scan_of_virtual register] at scanned
              cases scanned
          | physical own number =>
              rw [scan_uniform_of_physical register] at scanned
              by_cases agrees : first = own
              · rw [if_pos agrees] at scanned
                rw [ih scanned, agrees]
                simp [side?]
              · rw [if_neg agrees] at scanned
                cases scanned
                rcases Side.eq_opposite_or_eq_opposite agrees side with crosses | crosses <;>
                  simp [needsDataPath, side?, crosses]

/-- The scan finds that an instruction reads across exactly if some register lies on the
other side. -/
theorem needsDataPath_iff_of_scan
    (scanned : (scan mnemonic position unsided operands).outcome = .ok sides) :
    sides.needsDataPath side = true ↔
      ∃ reg ∈ operands.filterMap Operand.register?, reg.side? = some side.opposite := by
  induction operands generalizing position with
  | nil =>
      cases scanned
      simp [needsDataPath]
  | cons operand rest ih =>
      cases register : operand.register? with
      | none =>
          rw [scan_of_register?_none register] at scanned
          rw [List.filterMap_cons_none register, ih scanned]
      | some reg =>
          rw [List.filterMap_cons_some register]
          cases reg with
          | virtual number =>
              rw [scan_of_virtual register] at scanned
              cases scanned
          | physical own number =>
              rw [scan_unsided_of_physical register] at scanned
              rw [needsDataPath_iff_of_scan_uniform scanned]
              simp [side?]

end OperandSides

end VliwPack
