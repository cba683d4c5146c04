import VliwPack.Proofs.Assembly.Parts
import VliwPack.Proofs.Numeral

/-! # Texts of one line

A text of one line has no line end. The texts of numbers, registers, units and paths are
such texts, so the text of an instruction is one if its mnemonic and the labels among its
operands are (`Instruction.singleLine_text`).
-/

namespace VliwPack

/-- The text has no line end. -/
def SingleLine (text : String) : Prop := '\n' ∉ text.toList

instance (text : String) : Decidable (SingleLine text) :=
  inferInstanceAs (Decidable ('\n' ∉ text.toList))

namespace SingleLine

variable {first second text : String}

/-- Texts of one line are joined to one of one line. -/
theorem append (left : SingleLine first) (right : SingleLine second) :
    SingleLine (first ++ second) := by
  unfold SingleLine
  rw [String.toList_append, List.mem_append]
  exact fun either => either.elim left right

private theorem ofList {characters : List Char} (plain : '\n' ∉ characters) :
    SingleLine (String.ofList characters) := by
  unfold SingleLine
  rwa [String.toList_ofList]

/-- A natural number is written in one line. -/
theorem natural (number : Nat) : SingleLine (toString number) := by
  rw [← Numeral.ofList_digits]
  exact ofList (Numeral.not_mem_digits rfl)

/-- A whole number is written in one line. -/
theorem integer (number : Int) : SingleLine (toString number) := by
  rw [Int.toString_eq_repr, Int.repr_eq_if]
  split
  · exact natural number.toNat
  · exact append (by decide) (natural (-number).toNat)

/-- Texts of one line are joined by a separator of one line. -/
theorem intercalate {separator : String} {texts : List String} (plain : SingleLine separator)
    (all : ∀ text ∈ texts, SingleLine text) : SingleLine (separator.intercalate texts) := by
  induction texts with
  | nil => simp [SingleLine]
  | cons text rest ih =>
      obtain ⟨here, there⟩ := List.forall_mem_cons.mp all
      cases rest with
      | nil => simpa using here
      | cons next later =>
          rw [String.intercalate_cons_cons]
          exact (here.append plain).append (ih there)

private theorem register (register : Register) : SingleLine register.text := by
  apply ofList
  cases register with
  | physical side number =>
      apply List.not_mem_cons_of_ne_of_not_mem
      · cases side <;> decide
      · exact Numeral.not_mem_digits rfl
  | «virtual» number =>
      apply List.not_mem_cons_of_ne_of_not_mem (by decide)
      exact List.not_mem_cons_of_ne_of_not_mem (by decide) (Numeral.not_mem_digits rfl)

private theorem unit (unit : FunctionalUnit) : SingleLine unit.text := by
  apply append _ (natural unit.side.number)
  cases unit.kind <;> decide

private theorem pathMark (path : Option CrossPath) : SingleLine (Instruction.pathMark path) := by
  rcases path with _ | path <;> try cases path
  all_goals decide

end SingleLine

/-! ### Instructions -/

/-- The label that the operand spells. -/
def Operand.label? : Operand → Option String
  | .basicBlock label | .globalAddress label | .externalSymbol label => some label
  | .register .. | .immediate _ | .jumpTableIndex _ => none

namespace Instruction

variable {instruction : Instruction}

/-- The mnemonic and the labels of the instruction have no line end. -/
structure Plain (instruction : Instruction) : Prop where
  name : SingleLine instruction.name
  labels : ∀ operand ∈ instruction.operands, ∀ label ∈ operand.label?, SingleLine label

instance : DecidablePred Plain := fun instruction =>
  decidable_of_iff
    (SingleLine instruction.name ∧
      ∀ operand ∈ instruction.operands, ∀ label ∈ operand.label?, SingleLine label)
    ⟨fun ⟨name, labels⟩ => ⟨name, labels⟩, fun plain => ⟨plain.name, plain.labels⟩⟩

private theorem singleLine_physicalText {register : Register} {text : String}
    (written : instruction.physicalText register = .ok text) : SingleLine text := by
  obtain ⟨_, -, rest⟩ := exists_of_bind_ok written
  cases rest
  exact .register register

private theorem singleLine_operandText {operand : Operand} {text : String}
    (labels : ∀ label ∈ operand.label?, SingleLine label)
    (written : instruction.operandText operand = .ok text) : SingleLine text := by
  cases operand with
  | register register isDef isImplicit => exact singleLine_physicalText written
  | immediate value =>
      cases written
      exact .integer value.toInt
  | jumpTableIndex index =>
      cases written
      exact .natural index.toNat
  | basicBlock _ | globalAddress _ | externalSymbol _ =>
      cases written
      exact labels _ rfl

/-- An offset is written in one line, on either side of the parenthesis, if its label is. -/
private theorem singleLine_offsetText {operand : Operand} {before after : String}
    (labels : ∀ label ∈ operand.label?, SingleLine label)
    (written : instruction.offsetText operand = .ok (before, after)) :
    SingleLine before ∧ SingleLine after := by
  unfold offsetText at written
  split at written
  next value =>
      dsimp only at written
      split at written <;> cases written
      · exact ⟨by decide, by decide⟩
      · refine ⟨?_, (SingleLine.append (by decide) (.natural _)).append (by decide)⟩
        split <;> decide
  next =>
      obtain ⟨text, spelled, rest⟩ := exists_of_bind_ok written
      cases rest
      have plain := singleLine_operandText labels spelled
      exact ⟨by decide, (SingleLine.append (by decide) plain).append (by decide)⟩

private theorem singleLine_addressText {base offset : Operand} {text : String}
    (baseLabels : ∀ label ∈ base.label?, SingleLine label)
    (offsetLabels : ∀ label ∈ offset.label?, SingleLine label)
    (written : instruction.addressText base offset = .ok text) : SingleLine text := by
  obtain ⟨baseText, spelled, written⟩ := exists_of_bind_ok written
  obtain ⟨⟨before, after⟩, placed, written⟩ := exists_of_bind_ok written
  cases written
  obtain ⟨plainBefore, plainAfter⟩ := singleLine_offsetText offsetLabels placed
  have plainBase := singleLine_operandText baseLabels spelled
  exact ((SingleLine.append (by decide) plainBefore).append plainBase).append plainAfter

private theorem mem_operands_of_mem_encodedOperands {operand : Operand}
    (member : operand ∈ instruction.encodedOperands) : operand ∈ instruction.operands := by
  unfold encodedOperands at member
  split at member
  · exact (List.dropLast_sublist _).subset member
  · exact member

/-- The operands of an access are written in one line each. -/
private theorem singleLine_memoryOperandTexts (plain : instruction.Plain) {texts : List String}
    (written : instruction.memoryOperandTexts = .ok texts) : ∀ text ∈ texts, SingleLine text := by
  have labels : ∀ operand ∈ instruction.encodedOperands, ∀ label ∈ operand.label?,
      SingleLine label := fun operand member =>
    plain.labels operand (mem_operands_of_mem_encodedOperands member)
  unfold memoryOperandTexts at written
  split at written <;> split at written
  next base offset source _ encoded =>
      rw [encoded] at labels
      obtain ⟨sourceText, spelled, written⟩ := exists_of_bind_ok written
      obtain ⟨address, placed, written⟩ := exists_of_bind_ok written
      cases written
      simp only [List.forall_mem_cons] at labels ⊢
      refine ⟨singleLine_operandText labels.2.2.1 spelled, ?_, by simp⟩
      exact singleLine_addressText labels.1 labels.2.1 placed
  next => cases written
  next destination base offset _ encoded =>
      rw [encoded] at labels
      obtain ⟨address, placed, written⟩ := exists_of_bind_ok written
      obtain ⟨destinationText, spelled, written⟩ := exists_of_bind_ok written
      cases written
      simp only [List.forall_mem_cons] at labels ⊢
      refine ⟨?_, singleLine_operandText labels.1 spelled, by simp⟩
      exact singleLine_addressText labels.2.1 labels.2.2.1 placed
  next => cases written

/-- The operands of an instruction with plain labels are written in one line. -/
theorem singleLine_operandTexts (plain : instruction.Plain) {texts : List String}
    (written : instruction.operandTexts = .ok texts) : ∀ text ∈ texts, SingleLine text := by
  unfold operandTexts at written
  split at written
  · exact singleLine_memoryOperandTexts plain written
  · intro text member
    obtain ⟨operand, among, spelled⟩ := exists_of_mem_mapM written member
    apply singleLine_operandText _ spelled
    exact plain.labels operand (mem_operands_of_mem_encodedOperands among)

/-- A predicate is written in one line. -/
theorem singleLine_predicateText {text : String}
    (written : instruction.predicateText = .ok text) : SingleLine text := by
  unfold predicateText at written
  split at written
  · split at written
    · obtain ⟨name, spelled, rest⟩ := exists_of_bind_ok written
      cases rest
      have plain := singleLine_physicalText spelled
      refine (SingleLine.append (.append (by decide) ?_) plain).append (by decide)
      split <;> decide
    · cases written
      decide
  · cases written
    decide

/-- A unit is written in one line. -/
theorem singleLine_unitText? {unit : Option String}
    (written : instruction.unitText?.outcome = .ok unit) : ∀ text ∈ unit, SingleLine text := by
  unfold unitText? at written
  split at written
  · cases written
    exact fun _ none => nomatch none
  · obtain ⟨named, -, written⟩ := Traced.exists_of_bind_ok written
    obtain ⟨path, -, written⟩ := Traced.exists_of_bind_ok written
    cases written
    rintro text ⟨⟩
    exact (SingleLine.unit named).append (.pathMark path)

/-- An instruction's text has no line end if its mnemonic and its labels have none. -/
theorem singleLine_text (plain : instruction.Plain) {text : String}
    (written : instruction.text.outcome = .ok text) : SingleLine text := by
  obtain ⟨predicate, unit, operands, condition, issues, spelled, rfl⟩ :=
    exists_parts_of_text written
  have plainPredicate := singleLine_predicateText condition
  have plainUnit := singleLine_unitText? issues
  have plainOperands := singleLine_operandTexts plain spelled
  refine SingleLine.append (SingleLine.append (.append (plainPredicate.append (by decide))
    plain.name) ?_) ?_
  · cases unit with
    | none => decide
    | some unit => exact SingleLine.append (by decide) (plainUnit unit rfl)
  · unfold operandField
    split
    · decide
    · exact SingleLine.append (by decide) (.intercalate (by decide) plainOperands)

end Instruction

end VliwPack
