import VliwPack.Assembly.Instruction
import VliwPack.Proofs.Resolution.Idempotence

/-! # The parts of a line

A line of code is an instruction's text after a mark (`Instruction.lineAfter`). The text is
put together from the predicate, the mnemonic, the unit field and the operands, and the first
of these that cannot be written is what printing fails with (`Instruction.outcome_text`). So
instructions whose parts agree are printed alike.
-/

namespace VliwPack.Instruction

variable {instruction first second : Instruction} {mark text line : String}

/-- The unit field, after what separates it from the mnemonic. -/
def unitField : Option String → String
  | some unit => "\t." ++ unit
  | none => ""

/-- The operands, after what separates them from the unit field. -/
def operandField (operands : List String) : String :=
  if operands.isEmpty then "" else "\t" ++ String.intercalate ", " operands

/-- The text of an instruction with these parts. -/
def assembled (instruction : Instruction) (predicate : String) (unit : Option String)
    (operands : List String) : String :=
  predicate ++ "\t" ++ instruction.name ++ unitField unit ++ operandField operands

/-- The line of an instruction, after the mark that starts it. -/
def lineAfter (instruction : Instruction) (mark : String) : Traced String :=
  (mark ++ ·) <$> instruction.text

/-- The parts are written one after the other. -/
theorem outcome_text (instruction : Instruction) :
    instruction.text.outcome = do
      let predicate ← instruction.predicateText
      let unit ← instruction.unitText?.outcome
      let operands ← instruction.operandTexts
      return instruction.assembled predicate unit operands := by
  unfold text
  rcases instruction.predicateText with _ | _ <;>
    rcases instruction.unitText? with ⟨_ | _, _⟩ <;>
      rcases instruction.operandTexts with _ | _ <;> rfl

/-- What is printed is assembled from parts that are printed. -/
theorem exists_parts_of_text (written : instruction.text.outcome = .ok text) :
    ∃ predicate unit operands, instruction.predicateText = .ok predicate ∧
      instruction.unitText?.outcome = .ok unit ∧ instruction.operandTexts = .ok operands ∧
        text = instruction.assembled predicate unit operands := by
  rw [outcome_text] at written
  obtain ⟨predicate, condition, written⟩ := exists_of_bind_ok written
  obtain ⟨unit, issues, written⟩ := exists_of_bind_ok written
  obtain ⟨operands, spelled, written⟩ := exists_of_bind_ok written
  cases written
  exact ⟨predicate, unit, operands, condition, issues, spelled, rfl⟩

/-- A line is the mark and then the text. -/
theorem outcome_lineAfter_eq_ok_iff :
    (instruction.lineAfter mark).outcome = .ok line ↔
      ∃ text, instruction.text.outcome = .ok text ∧ mark ++ text = line := by
  rw [lineAfter, Traced.outcome_map, Traced.outcome_map_eq_ok_iff]

/-- A line fails as the text does, whatever the mark. -/
theorem outcome_lineAfter_eq_error_iff {fault : Fault} :
    (instruction.lineAfter mark).outcome = .error fault ↔
      instruction.text.outcome = .error fault := by
  rw [lineAfter, Traced.outcome_map, Traced.outcome_map_eq_error_iff]

/-! ### Instructions that are printed alike -/

/-- What is printed depends on the parts of the text alone. -/
theorem outcome_text_congr (name : second.name = first.name)
    (predicate : second.predicateText = first.predicateText)
    (unit : second.unitText?.outcome = first.unitText?.outcome)
    (operands : second.operandTexts = first.operandTexts) :
    second.text.outcome = first.text.outcome := by
  simp only [outcome_text, assembled, name, predicate, unit, operands]

/-- The predicate's text depends on the name, the predicate and whether there may be one. -/
theorem predicateText_congr (name : second.name = first.name)
    (predicate : second.predicate = first.predicate)
    (predicable : second.descriptor.isPredicable = first.descriptor.isPredicable) :
    second.predicateText = first.predicateText := by
  simp only [predicateText, physicalText, name, predicate, predicable]

/-- The text of an operand depends on no more of the instruction than its name. -/
theorem operandText_congr (name : second.name = first.name) :
    second.operandText = first.operandText := by
  funext operand
  cases operand <;> simp only [operandText, physicalText, name]

/-- What resolving writes into the format field is not printed. -/
theorem encodedOperands_resolved (instruction : Instruction) :
    instruction.resolved.encodedOperands = instruction.encodedOperands := by
  rcases instruction.resolved_eq_self_or_written with
    same | ⟨-, -, flexible, field, bit, events, -, -, written⟩
  · rw [same]
  · have alsoFlexible :
        (instruction.withFormatField (FormatField.withPathBit field bit)).isFlexible = true :=
      flexible
    rw [written, encodedOperands, if_pos alsoFlexible, encodedOperands, if_pos flexible,
      operands_withFormatField, List.dropLast_concat]

end VliwPack.Instruction
