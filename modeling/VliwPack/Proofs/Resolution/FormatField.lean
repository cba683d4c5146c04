import VliwPack.Resolution

/-! # Rewriting the format field

Resolution reads an instruction through its descriptor, the registers among its
operands and its format field. Another value in the format field leaves all else
as it was (`withFormatField`), so the path bit that the operands call for does not
depend on the path bit that stands in the field
(`neededPathBit_withFormatField`).
-/

namespace VliwPack

/-- The scan of the operands' sides sees only their registers. -/
theorem OperandSides.scan_congr (mnemonic : String) (first second : List Operand)
    (same : first.map Operand.register? = second.map Operand.register?) :
    ∀ position sofar, scan mnemonic position sofar first = scan mnemonic position sofar second := by
  induction first generalizing second with
  | nil =>
      intro position sofar
      obtain rfl : second = [] := by simpa using same.symm
      rfl
  | cons operand rest ih =>
      obtain _ | ⟨other, others⟩ := second
      · simp at same
      intro position sofar
      simp only [List.map_cons, List.cons.injEq] at same
      simp only [scan, same.1, ih others same.2]

/-- A last operand that is no register adds nothing to the scan. -/
theorem OperandSides.scan_append_of_register?_none (mnemonic : String) {last : Operand}
    (other : last.register? = none) (operands : List Operand) :
    ∀ position sofar, scan mnemonic position sofar (operands ++ [last]) =
      scan mnemonic position sofar operands := by
  induction operands with
  | nil =>
      intro position sofar
      simp only [List.nil_append, scan, other]
  | cons operand rest ih =>
      intro position sofar
      simp only [List.cons_append, scan, ih]

namespace Instruction

variable {instruction : Instruction} {field : Int64}

/-- The instruction with another value in its last operand. -/
def withFormatField (instruction : Instruction) (field : Int64) : Instruction :=
  instruction.withLastOperand (.immediate field)

/-- Writing the format field keeps the descriptor. -/
@[simp] theorem descriptor_withFormatField (instruction : Instruction) (field : Int64) :
    (instruction.withFormatField field).descriptor = instruction.descriptor := rfl

/-- Writing the format field keeps the name. -/
@[simp] theorem name_withFormatField (instruction : Instruction) (field : Int64) :
    (instruction.withFormatField field).name = instruction.name := rfl

/-- The format field takes the place of the last operand. -/
@[simp] theorem operands_withFormatField (instruction : Instruction) (field : Int64) :
    (instruction.withFormatField field).operands =
      instruction.operands.dropLast ++ [.immediate field] := rfl

/-- The format field is read as it was written. -/
@[simp] theorem formatField?_withFormatField (instruction : Instruction) (field : Int64) :
    (instruction.withFormatField field).formatField? = some field := by
  simp [formatField?, Operand.immediate?]

/-- The format field that is written last stays. -/
@[simp] theorem withFormatField_withFormatField (instruction : Instruction)
    (first second : Int64) :
    (instruction.withFormatField first).withFormatField second =
      instruction.withFormatField second := by
  simp [withFormatField, withLastOperand]

/-- An instruction with a format field ends with that immediate. -/
theorem operands_of_formatField? (format : instruction.formatField? = some field) :
    instruction.operands = instruction.operands.dropLast ++ [.immediate field] := by
  obtain ⟨last, isLast, isImmediate⟩ := Option.bind_eq_some_iff.mp format
  cases last <;> simp only [Operand.immediate?, Option.some.injEq, reduceCtorEq] at isImmediate
  subst isImmediate
  obtain ⟨leading, operands⟩ := List.getLast?_eq_some_iff.mp isLast
  rw [operands, List.dropLast_concat]

/-- Only writing the format field that is there changes nothing. -/
theorem withFormatField_eq_self_iff (format : instruction.formatField? = some field)
    {other : Int64} :
    instruction.withFormatField other = instruction ↔ other = field := by
  constructor
  · intro same
    have again := congrArg formatField? same
    rw [formatField?_withFormatField, format] at again
    exact Option.some.inj again
  · rintro rfl
    rw [withFormatField, withLastOperand, ← operands_of_formatField? format]

/-- The format field is not a register, whatever value stands in it. -/
theorem registers_withFormatField (format : instruction.formatField? = some field)
    (other : Int64) :
    (instruction.withFormatField other).operands.map Operand.register? =
      instruction.operands.map Operand.register? := by
  rw [operands_of_formatField? format]
  simp [Operand.register?]

/-- The sides of the leading registers do not depend on the format field. -/
theorem operandSides_withFormatField (format : instruction.formatField? = some field)
    (other : Int64) :
    (instruction.withFormatField other).operandSides = instruction.operandSides := by
  apply OperandSides.scan_congr
  rw [List.map_take, List.map_take, registers_withFormatField format]

/-- The register that selects the memory path does not depend on the format
field. -/
theorem memoryRegister_withFormatField (format : instruction.formatField? = some field)
    (other : Int64) :
    (instruction.withFormatField other).memoryRegister = instruction.memoryRegister := by
  have operands := operands_of_formatField? format
  unfold memoryRegister
  rw [operands_withFormatField, descriptor_withFormatField, name_withFormatField]
  generalize instruction.operands.dropLast = leading at operands ⊢
  rw [operands]
  -- The field is operand 0 or 2 of a short list only, where it is no register in either.
  by_cases store : instruction.descriptor.isStore = true
  · simp only [store, ↓reduceIte]
    rcases leading with _ | ⟨first, _ | ⟨second, _ | ⟨third, rest⟩⟩⟩
    · rfl
    · rfl
    · rfl
    · grind
  · simp only [store]
    rcases leading with _ | ⟨first, rest⟩
    · rfl
    · grind

/-- The path bit that the operands call for does not depend on the format field. -/
theorem neededPathBit_withFormatField (format : instruction.formatField? = some field)
    (other : Int64) :
    (instruction.withFormatField other).neededPathBit = instruction.neededPathBit := by
  simp only [neededPathBit, descriptor_withFormatField, name_withFormatField,
    memoryRegister_withFormatField format, operandSides_withFormatField format]

end Instruction

end VliwPack
