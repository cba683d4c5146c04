import Mathlib.Data.List.Forall2
import VliwPack.Proofs.Assembly.Parts

/-! # The operands on a line

Apart from loads and stores, an instruction's line shows its encoded operands in order, each
by its own text (`Instruction.ShowsOperands`). The encoded operands leave out the last operand
of a flexible instruction, and the unit field can only be written if that operand is the
format field. A move has no unit field, so nothing looks at the last operand of a flexible
move: a move without a format field is printed too, and loses the operand in its place
(`Instruction.printed_operands`).
-/

namespace VliwPack

/-- The values of a list of computations are those of its members, in order. -/
theorem forall₂_of_mapM {α β : Type} {step : α → Except Fault β} {list : List α}
    {values : List β} (ends : list.mapM step = .ok values) :
    List.Forall₂ (fun element value => step element = .ok value) list values := by
  induction list generalizing values with
  | nil =>
      cases ends
      exact .nil
  | cons element rest ih =>
      rw [List.mapM_cons] at ends
      obtain ⟨value, here, ends⟩ := exists_of_bind_ok ends
      obtain ⟨later, there, ends⟩ := exists_of_bind_ok ends
      cases ends
      exact .cons here (ih there)

namespace Instruction

variable {instruction : Instruction} {shown : List Operand} {mark line : String}

/-- The operands are all operands of the instruction but, if it is flexible, the immediate
that is its format field. -/
def Encoded (instruction : Instruction) (shown : List Operand) : Prop :=
  if instruction.isFlexible then ∃ field, instruction.operands = shown ++ [.immediate field]
  else instruction.operands = shown

/-- The line shows the operands in order, each by its text. -/
def ShowsOperands (instruction : Instruction) (mark line : String) (shown : List Operand) : Prop :=
  ∃ predicate unit texts, instruction.predicateText = .ok predicate ∧
    instruction.unitText?.outcome = .ok unit ∧
    List.Forall₂ (fun operand text => instruction.operandText operand = .ok text) shown texts ∧
    line = mark ++ instruction.assembled predicate unit texts

/-- The instruction is a flexible move that has no format field. -/
structure IsFieldlessMove (instruction : Instruction) : Prop where
  flexible : instruction.isFlexible = true
  move : instruction.descriptor.isMove = true
  fieldless : instruction.formatField? = none

/-- What accesses no memory shows its encoded operands if it is printed. -/
theorem showsOperands_encodedOperands (plain : instruction.descriptor.isMemoryAccess = false)
    (printed : (instruction.lineAfter mark).outcome = .ok line) :
    instruction.ShowsOperands mark line instruction.encodedOperands := by
  obtain ⟨text, written, rfl⟩ := outcome_lineAfter_eq_ok_iff.mp printed
  obtain ⟨predicate, unit, texts, condition, issues, spelled, rfl⟩ :=
    exists_parts_of_text written
  rw [operandTexts, plain] at spelled
  exact ⟨predicate, unit, texts, condition, issues, forall₂_of_mapM spelled, rfl⟩

/-- The unit of a flexible instruction is read off the format field. -/
theorem unitText?_of_fieldless (flexible : instruction.isFlexible = true)
    (unmoved : instruction.descriptor.isMove = false)
    (fieldless : instruction.formatField? = none) :
    instruction.unitText?.outcome = .error (.missingFormatField instruction.name) := by
  have unread : instruction.functionalUnit = .error (.missingFormatField instruction.name) := by
    rw [functionalUnit, if_pos flexible, formatUnit, formatField_of_none fieldless]
    rfl
  rw [unitText?, unmoved, unread]
  rfl

/-- What chooses its unit by a format field, but has none, is not printed unless it is a move. -/
theorem exists_fault_of_fieldless (flexible : instruction.isFlexible = true)
    (unmoved : instruction.descriptor.isMove = false)
    (fieldless : instruction.formatField? = none) (mark : String) :
    ∃ fault, (instruction.lineAfter mark).outcome = .error fault := by
  simp only [outcome_lineAfter_eq_error_iff]
  rw [outcome_text, unitText?_of_fieldless flexible unmoved fieldless]
  cases instruction.predicateText with
  | error fault => exact ⟨fault, rfl⟩
  | ok predicate => exact ⟨_, rfl⟩

/-- What is printed is encoded, unless the instruction is a move that lacks a format field. -/
theorem encoded_encodedOperands (printed : (instruction.lineAfter mark).outcome = .ok line)
    (fielded : ¬ instruction.IsFieldlessMove) :
    instruction.Encoded instruction.encodedOperands := by
  unfold Encoded encodedOperands
  split
  next flexible =>
    cases format : instruction.formatField? with
    | some field => exact ⟨field, operands_of_formatField? format⟩
    | none =>
        cases moved : instruction.descriptor.isMove with
        | true => exact absurd ⟨flexible, moved, format⟩ fielded
        | false =>
            obtain ⟨fault, fails⟩ := exists_fault_of_fieldless flexible moved format mark
            cases printed.symm.trans fails
  next => rfl

/-- A line of an instruction that is no load or store shows all operands in order, except that
of a flexible instruction it leaves out the immediate that is the format field, and that of a
flexible move without a format field it leaves out the last operand. No other flexible
instruction without a format field is printed. -/
theorem printed_operands (instruction : Instruction) (mark : String) :
    (instruction.descriptor.isMemoryAccess = false →
      ∀ line, (instruction.lineAfter mark).outcome = .ok line →
        ∃ shown, instruction.ShowsOperands mark line shown ∧
          (instruction.Encoded shown ∨
            instruction.IsFieldlessMove ∧ shown = instruction.operands.dropLast)) ∧
      (instruction.isFlexible = true → instruction.descriptor.isMove = false →
        instruction.formatField? = none →
          ∃ fault, (instruction.lineAfter mark).outcome = .error fault) := by
  refine ⟨fun plain line printed => ?_, fun flexible unmoved fieldless =>
    exists_fault_of_fieldless flexible unmoved fieldless mark⟩
  refine ⟨_, showsOperands_encodedOperands plain printed, ?_⟩
  by_cases lost : instruction.IsFieldlessMove
  · exact .inr ⟨lost, by rw [encodedOperands, if_pos lost.flexible]⟩
  · exact .inl (encoded_encodedOperands printed lost)

/-- A move on side A whose encoding lets the side be selected. -/
def flexibleMove (last : List Operand) : Instruction where
  descriptor := { (copy .a).descriptor with isSideSelectable := true }
  operands := (copy .a).operands ++ last

/-- A move that has its format field shows both operands. -/
theorem printed_operands_flexibleMove :
    ∃ shown, (flexibleMove [.immediate 0]).ShowsOperands "\t" "\t\tmv\tA1, A2" shown ∧
      (flexibleMove [.immediate 0]).Encoded shown := by
  obtain ⟨shows, -⟩ := printed_operands (flexibleMove [.immediate 0]) "\t"
  obtain ⟨shown, spelled, encoded | ⟨lost, -⟩⟩ := shows rfl _ rfl
  · exact ⟨shown, spelled, encoded⟩
  · cases lost.fieldless

/-- Without a format field the source of a move stands in its place, and is not printed. -/
theorem flexibleMove_loses_source :
    (flexibleMove []).descriptor.isMemoryAccess = false ∧ (flexibleMove []).Resolves ∧
      (flexibleMove []).isFlexible = true ∧ (flexibleMove []).formatField? = none ∧
      ((flexibleMove []).lineAfter "\t").outcome = .ok "\t\tmv\tA1" ∧
      ¬ ∃ shown, (flexibleMove []).ShowsOperands "\t" "\t\tmv\tA1" shown ∧
        (flexibleMove []).Encoded shown := by
  refine ⟨rfl, ⟨_, rfl⟩, rfl, rfl, by decide, ?_⟩
  rintro ⟨shown, -, field, operands⟩
  have last := congrArg List.getLast? operands
  rw [List.getLast?_concat] at last
  cases last

end Instruction

end VliwPack
