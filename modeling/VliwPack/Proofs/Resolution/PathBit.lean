import VliwPack.Proofs.Resolution.Description

/-! # The two parts of a format field

A format field is a 64-bit word. The path bit is its lowest bit, and the number of the unit kind is
what the other bits are, shifted right by one (`FormatField.toInt_shiftRight_one`). Writing the path
bit is masking (`FormatField.withPathBit_eq_mask`), so it keeps the kind, and a kind and a path bit
together are one field (`Instruction.formatUnit_and_pathBit_iff`). On instructions the two parts are
independent (`Instruction.setPathBit_keeps_unit`).
-/

namespace VliwPack

/-! ### The bits of a field -/

namespace FormatField

variable (field : Int64) (bit : Bool)

private theorem toBitVec_shiftRight_one : (field >>> 1).toBitVec = field.toBitVec.sshiftRight 1 :=
  Int64.toBitVec_shiftRight field 1

/-- The number of the unit kind is the field shifted right by one. -/
theorem toInt_shiftRight_one : (field >>> 1).toInt = kindIndex field :=
  calc (field >>> 1).toInt
      = (field.toBitVec.sshiftRight 1).toInt :=
        congrArg BitVec.toInt (toBitVec_shiftRight_one field)
    _ = field.toInt >>> (1 : Nat) := BitVec.toInt_sshiftRight
    _ = kindIndex field := Int.shiftRight_eq_div_pow field.toInt 1

/-- The path bit is the lowest bit of the field. -/
theorem getLsbD_zero : field.toBitVec.getLsbD 0 = pathBit field := by
  have value : field.toInt = if 2 * field.toBitVec.toNat < 2 ^ 64 then (field.toBitVec.toNat : Int)
      else field.toBitVec.toNat - (2 ^ 64 : Nat) := BitVec.toInt_eq_toNat_cond _
  rw [← BitVec.testBit_toNat, Nat.testBit_zero, pathBit, value, Bool.eq_iff_iff, decide_eq_true_eq,
    beq_iff_eq]
  split <;> omega

private theorem getLsbD_succ {position : Nat} (within : position + 1 < 64) :
    field.toBitVec.getLsbD (position + 1) = (field >>> 1).toBitVec.getLsbD position := by
  have inside : ¬ 64 ≤ position := by omega
  rw [toBitVec_shiftRight_one, BitVec.getLsbD_sshiftRight, Nat.add_comm 1, if_pos within]
  simp [inside]

/-- Writing the path bit leaves the other bits of the field alone. -/
theorem getLsbD_withPathBit {position : Nat} (upper : position ≠ 0) :
    (withPathBit field bit).toBitVec.getLsbD position = field.toBitVec.getLsbD position := by
  obtain ⟨lower, rfl⟩ := Nat.exists_eq_succ_of_ne_zero upper
  by_cases within : lower + 1 < 64
  · have same : withPathBit field bit >>> 1 = field >>> 1 := by
      rw [← Int64.toInt_inj, toInt_shiftRight_one, toInt_shiftRight_one, kindIndex_withPathBit]
    rw [getLsbD_succ _ within, getLsbD_succ _ within, same]
  · rw [BitVec.getLsbD_of_ge _ _ (by omega), BitVec.getLsbD_of_ge _ _ (by omega)]

/-- Writing the path bit clears the lowest bit of the field and then sets it if the path bit is
set. -/
theorem withPathBit_eq_mask :
    withPathBit field bit = field &&& ~~~1 ||| if bit then 1 else 0 := by
  apply Int64.toBitVec_inj.mp
  apply BitVec.eq_of_getLsbD_eq
  intro position within
  have one : (1 : Int64).toBitVec.getLsbD position = decide (position = 0) := by
    simp [BitVec.getLsbD_one]
  have written : (if bit then 1 else 0 : Int64).toBitVec.getLsbD position =
      (bit && decide (position = 0)) := by
    cases bit <;> simp
  rw [Int64.toBitVec_or, Int64.toBitVec_and, Int64.toBitVec_not, BitVec.getLsbD_or,
    BitVec.getLsbD_and, BitVec.getLsbD_not, one, written]
  by_cases lowest : position = 0
  · subst lowest
    rw [getLsbD_zero, pathBit_withPathBit]
    simp
  · rw [getLsbD_withPathBit field bit lowest]
    simp [lowest, within]

/-- The field is composed of the unit kind and the path bit. -/
def Encodes (kind : UnitKind) : Prop := field.toInt = 2 * kind.index + if bit then 1 else 0

private theorem encodes_iff (kind : UnitKind) :
    Encodes field bit kind ↔ kindIndex field = kind.index ∧ pathBit field = bit := by
  unfold Encodes kindIndex pathBit
  cases bit <;> simp <;> omega

end FormatField

/-! ### Reading and writing the parts -/

namespace Instruction

variable {instruction : Instruction} {leading : List Operand} {field : Int64}

private theorem formatField?_of_operands
    (operands : instruction.operands = leading ++ [.immediate field]) :
    instruction.formatField? = some field := by
  rw [formatField?, operands, List.getLast?_concat]
  rfl

private theorem formatField?_eq_none
    (other : ∀ field, instruction.operands.getLast? ≠ some (.immediate field)) :
    instruction.formatField? = none := by
  rw [formatField?, Option.bind_eq_none_iff]
  intro last isLast
  cases last with
  | immediate field => exact absurd isLast (other field)
  | _ => rfl

/-- A unit kind and a path bit are read off the field exactly if it is composed of them. -/
theorem formatUnit_and_pathBit_iff (format : instruction.formatField? = some field)
    (kind : UnitKind) (bit : Bool) :
    instruction.formatUnit = .ok kind ∧ instruction.pathBit = .ok bit ↔
      FormatField.Encodes field bit kind := by
  rw [formatUnit_of_formatField? format, pathBit_of_formatField? format,
    UnitKind.ofIndex_eq_ok_iff, Except.ok.injEq, FormatField.encodes_iff]

/-- A field that is composed of no unit kind names none, and its half is reported. -/
theorem formatUnit_eq_error_iff (format : instruction.formatField? = some field) (fault : Fault) :
    instruction.formatUnit = .error fault ↔
      (∀ kind bit, ¬ FormatField.Encodes field bit kind) ∧
        fault = .unknownUnitIndex (field.toInt / 2) := by
  simp only [formatUnit_of_formatField? format, FormatField.encodes_iff]
  cases named : UnitKind.ofIndex (FormatField.kindIndex field) with
  | ok kind =>
      have index := UnitKind.ofIndex_eq_ok_iff.mp named
      exact ⟨nofun, fun ⟨unnamed, _⟩ => absurd ⟨index, rfl⟩ (unnamed kind _)⟩
  | error other =>
      obtain ⟨-, rfl⟩ := UnitKind.ofIndex_eq_error_iff.mp named
      rw [Except.error.injEq, eq_comm]
      refine ⟨fun same => ⟨?_, same⟩, And.right⟩
      rintro kind bit ⟨index, -⟩
      rw [UnitKind.ofIndex_eq_ok_iff.mpr index] at named
      cases named

/-- The unit kind and the path bit of a format field are independent. Writing the path bit succeeds
whatever field stands there, gives the path bit that is written, changes at most the lowest bit of
the field and nothing else of the instruction, keeps the unit that the field names or the number
that names none, and tells whether the path bit was another one. The fields that name a unit are
those composed of a unit kind and a path bit. Without a field nothing is written. -/
theorem setPathBit_keeps_unit (instruction : Instruction) :
    (∀ leading field, instruction.operands = leading ++ [.immediate field] →
      (∀ bit, ∃ changed written,
        let after : Instruction := { instruction with operands := leading ++ [.immediate written] }
        setPathBit bit instruction = ⟨⟨.ok changed, []⟩, after⟩ ∧
          after.formatField = .ok written ∧ after.pathBit = .ok bit ∧
          after.formatUnit = instruction.formatUnit ∧
          written = (field &&& ~~~1 ||| if bit then 1 else 0) ∧
          (∀ position, position ≠ 0 →
            written.toBitVec.getLsbD position = field.toBitVec.getLsbD position) ∧
          (changed = true ↔ instruction.pathBit ≠ .ok bit)) ∧
      (∀ kind bit, instruction.formatUnit = .ok kind ∧ instruction.pathBit = .ok bit ↔
        field.toInt = 2 * kind.index + if bit then 1 else 0) ∧
      ∀ fault, instruction.formatUnit = .error fault ↔
        (∀ (kind : UnitKind) (bit : Bool),
          field.toInt ≠ 2 * kind.index + if bit then 1 else 0) ∧
          fault = .unknownUnitIndex (field.toInt / 2)) ∧
    ((∀ field, instruction.operands.getLast? ≠ some (.immediate field)) → ∀ bit,
      setPathBit bit instruction =
        ⟨⟨.error (.missingFormatField instruction.name), []⟩, instruction⟩) := by
  refine ⟨fun leading field operands => ?_,
    fun other => setPathBit_of_none (formatField?_eq_none other)⟩
  have format := formatField?_of_operands operands
  refine ⟨fun bit => ?_, formatUnit_and_pathBit_iff format, formatUnit_eq_error_iff format⟩
  let written := FormatField.withPathBit field bit
  have after : instruction.withFormatField written =
      { instruction with operands := leading ++ [.immediate written] } := by
    rw [withFormatField, withLastOperand, operands, List.dropLast_concat]
  have writtenFormat := formatField?_withFormatField instruction written
  refine ⟨FormatField.pathBit field != bit, written, ?_⟩
  rw [← after]
  refine ⟨setPathBit_apply format bit, formatField_of_formatField? writtenFormat, ?_, ?_,
    FormatField.withPathBit_eq_mask field bit,
    fun _ => FormatField.getLsbD_withPathBit field bit, ?_⟩
  · rw [pathBit_of_formatField? writtenFormat, FormatField.pathBit_withPathBit]
  · rw [formatUnit_of_formatField? writtenFormat, formatUnit_of_formatField? format,
      FormatField.kindIndex_withPathBit]
  · rw [pathBit_of_formatField? format]
    simp

/-- The least field is negative, and its half names no unit. -/
theorem setPathBit_keeps_unit_least :
    let instruction : Instruction := ⟨{ name := "add" }, [.immediate Int64.minValue], none⟩
    let bare : Instruction := ⟨{ name := "add" }, [], none⟩
    let trail := setPathBit true instruction
    trail.outcome = .ok true ∧ trail.state.pathBit = .ok true ∧
      trail.state.formatUnit = .error (.unknownUnitIndex (-4611686018427387904)) ∧
      setPathBit true bare = ⟨⟨.error (.missingFormatField "add"), []⟩, bare⟩ := by
  intro instruction bare trail
  obtain ⟨writes, -, names⟩ := (setPathBit_keeps_unit instruction).1 [] Int64.minValue rfl
  obtain ⟨changed, written, run, -, pathBit, unit, -, -, tells⟩ := writes true
  have clear : instruction.pathBit ≠ .ok true := nofun
  have unnamed : ∀ (kind : UnitKind) (bit : Bool),
      Int64.minValue.toInt ≠ 2 * kind.index + if bit then 1 else 0 := by
    intro kind bit
    cases kind <;> cases bit <;> decide
  have nameless : instruction.formatUnit = .error (.unknownUnitIndex (-4611686018427387904)) :=
    (names _).mpr ⟨unnamed, rfl⟩
  have missing := (setPathBit_keeps_unit bare).2 nofun true
  simp only [trail, run]
  exact ⟨congrArg Except.ok (tells.mpr clear), pathBit, unit.trans nameless, missing⟩

end Instruction

end VliwPack
