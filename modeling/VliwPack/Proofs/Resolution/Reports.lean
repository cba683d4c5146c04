import VliwPack.Proofs.Heading
import VliwPack.Proofs.Resolution.Idempotence

/-! # What resolving reports

Resolving reports how operands were read, and then the path bit if that was another one
before (`Instruction.exists_reads_of_resolve`). An instruction that has been resolved is
resolved again without such a report, since nothing about it changes
(`Instruction.filter_pathBit_resolve_resolved`). Nothing else is reported
(`Instruction.tally_resolve`); in particular no path bit is ever refused.
-/

namespace VliwPack

namespace Traced

variable {α β : Type}

/-- The computation reports nothing but how operands were read. -/
def OnlyReads (traced : Traced α) : Prop :=
  ∀ event ∈ traced.events, event.heading = .reading

private theorem onlyReads_outcome (outcome : Except Fault α) : OnlyReads ⟨outcome, []⟩ := by
  intro event member
  cases member

private theorem onlyReads_report {event : Event} (reads : event.heading = .reading) :
    OnlyReads (report event) := by
  intro other member
  rw [List.mem_singleton.mp member]
  exact reads

private theorem OnlyReads.bind {first : Traced α} {next : α → Traced β} (head : first.OnlyReads)
    (tail : ∀ value, (next value).OnlyReads) : (first >>= next).OnlyReads := by
  obtain ⟨fault | value, events⟩ := first
  · exact head
  · intro event member
    rcases List.mem_append.mp member with before | after
    · exact head event before
    · exact tail value event after

private theorem OnlyReads.map {traced : Traced α} (step : α → β) (reads : traced.OnlyReads) :
    (step <$> traced).OnlyReads := by
  obtain ⟨fault | value, events⟩ := traced
  · exact reads
  · rw [map_ok]
    exact reads

end Traced

/-- Writing the path bit that stands in the field changes nothing. -/
theorem FormatField.withPathBit_eq_self_iff (field : Int64) (bit : Bool) :
    withPathBit field bit = field ↔ pathBit field = bit := by
  constructor
  · intro same
    rw [← same, pathBit_withPathBit]
  · rintro rfl
    apply Int64.toInt_inj.mp
    rw [toInt_withPathBit, pathBit, kindIndex]
    split <;> simp at * <;> omega

namespace Instruction

open Traced

variable {instruction : Instruction}

/-- Scanning operands reports nothing but what it reads, by induction on the operands. -/
private theorem onlyReads_scan (mnemonic : String) (operands : List Operand) :
    ∀ position sofar, OnlyReads (OperandSides.scan mnemonic position sofar operands) := by
  induction operands with
  | nil => exact fun _ _ => onlyReads_outcome _
  | cons operand rest ih =>
      intro position sofar
      unfold OperandSides.scan
      split
      · exact ih _ _
      · refine (onlyReads_outcome _).bind fun side => ?_
        split
        · exact ih _ _
        · split
          · exact ih _ _
          · exact (onlyReads_report rfl).bind fun _ => onlyReads_outcome _

private theorem onlyReads_moveRoute (instruction : Instruction) :
    OnlyReads instruction.moveRoute := by
  unfold moveRoute
  split
  · refine (onlyReads_outcome _).bind fun _ => (onlyReads_outcome _).bind fun _ => ?_
    exact (onlyReads_report rfl).bind fun _ => onlyReads_outcome _
  · exact onlyReads_outcome _

private theorem onlyReads_neededPathBit (instruction : Instruction) :
    OnlyReads instruction.neededPathBit := by
  unfold neededPathBit
  split
  · refine (onlyReads_outcome _).bind fun _ => ?_
    exact (onlyReads_outcome _).bind fun _ => onlyReads_outcome _
  · exact (onlyReads_scan _ _ _ _).bind fun _ => onlyReads_outcome _

private theorem onlyReads_crossPath (fixed : instruction.isFlexible = false) :
    OnlyReads instruction.crossPath := by
  unfold crossPath
  simp only [fixed, Bool.false_eq_true, ↓reduceIte]
  split
  · exact onlyReads_outcome _
  · split
    · exact onlyReads_outcome _
    · refine (onlyReads_scan _ _ _ _).bind fun _ => ?_
      split
      · exact (onlyReads_report rfl).bind fun _ => onlyReads_outcome _
      · exact onlyReads_outcome _

/-! ### The report of a path bit -/

/-- The report that the path bit of an instruction was changed, if its format field is
another one afterwards. -/
def pathBitReport? (before after : Instruction) : Option Event :=
  if after.formatField? = before.formatField? then none
  else some (.pathBitSet before.name (after.formatField?.any FormatField.pathBit))

/-- Nothing is reported where nothing was written. -/
theorem pathBitReport?_self (instruction : Instruction) :
    pathBitReport? instruction instruction = none :=
  if_pos rfl

/-- A path bit is reported where it was another one before. -/
theorem pathBitReport?_written {field : Int64} (format : instruction.formatField? = some field)
    (bit : Bool) :
    pathBitReport? instruction
        (instruction.withFormatField (FormatField.withPathBit field bit)) =
      if FormatField.pathBit field != bit then some (.pathBitSet instruction.name bit)
      else none := by
  rw [pathBitReport?, formatField?_withFormatField, format]
  by_cases same : FormatField.pathBit field = bit
  · rw [(FormatField.withPathBit_eq_self_iff field bit).mpr same, if_pos rfl, same]
    simp
  · have changed : some (FormatField.withPathBit field bit) ≠ some field := by
      rw [ne_eq, Option.some.injEq, FormatField.withPathBit_eq_self_iff]
      exact same
    rw [if_neg changed, if_pos (by simpa using same), Option.any_some,
      FormatField.pathBit_withPathBit]

/-- What is reported is a path bit. -/
theorem heading_of_mem_pathBitReport? {before after : Instruction} {event : Event}
    (reported : event ∈ pathBitReport? before after) : event.heading = .pathBit := by
  unfold pathBitReport? at reported
  split at reported
  · cases reported
  · cases reported
    rfl

/-- Resolving reports how operands were read, and then a path bit that it changed. -/
theorem exists_reads_of_resolve (instruction : Instruction) :
    ∃ reads : List Event, (∀ event ∈ reads, event.heading = .reading) ∧
      (resolve instruction).events =
        reads ++ (pathBitReport? instruction instruction.resolved).toList := by
  have way := instruction.resolution
  unfold resolved
  generalize resolve instruction = trail at way ⊢
  cases way with
  | pseudo => exact ⟨[], by simp, by simp [pathBitReport?_self]⟩
  | move =>
      have reads := (onlyReads_moveRoute instruction).map fun route => Claim.move route.1 route.2
      exact ⟨_, reads, by simp [pathBitReport?_self]⟩
  | fixed _ _ fixed =>
      have reads := (onlyReads_crossPath fixed).map fun path =>
        Claim.unit ⟨instruction.descriptor.unit, instruction.descriptor.side⟩ path
      exact ⟨_, reads, by simp [pathBitReport?_self]⟩
  | unneeded _ _ _ needed | formatless _ _ _ needed =>
      have reads := instruction.onlyReads_neededPathBit
      rw [needed] at reads
      exact ⟨_, reads, by simp [pathBitReport?_self]⟩
  | @written bit events field _ _ _ needed format =>
      have reads := instruction.onlyReads_neededPathBit
      rw [needed] at reads
      refine ⟨events, reads, ?_⟩
      rw [pathBitReport?_written format]
      split <;> rfl

/-- Resolving reports nothing under any other heading. -/
@[simp] theorem tally_resolve (instruction : Instruction) {heading : Heading}
    (reading : heading ≠ .reading) (pathBit : heading ≠ .pathBit) :
    Event.tally (resolve instruction).events heading = 0 := by
  obtain ⟨reads, reported, whole⟩ := instruction.exists_reads_of_resolve
  rw [whole, Event.tally, List.countP_eq_zero]
  intro event member
  rw [decide_eq_true_eq]
  rintro rfl
  rcases List.mem_append.mp member with read | written
  · exact reading (reported event read)
  · exact pathBit (heading_of_mem_pathBitReport? (Option.mem_toList.mp written))

/-- Resolving reports the path bit where it is written, and no other. -/
theorem filter_pathBit_resolve (instruction : Instruction) :
    (resolve instruction).events.filter (·.heading = .pathBit) =
      (pathBitReport? instruction instruction.resolved).toList := by
  obtain ⟨reads, reported, whole⟩ := instruction.exists_reads_of_resolve
  have none : reads.filter (·.heading = .pathBit) = [] := by
    rw [List.filter_eq_nil_iff]
    intro event read
    simp [reported event read]
  rw [whole, List.filter_append, none, List.nil_append, List.filter_eq_self]
  intro event written
  rw [decide_eq_true_eq]
  exact heading_of_mem_pathBitReport? (Option.mem_toList.mp written)

/-- Resolving again reports no path bit. -/
theorem filter_pathBit_resolve_resolved (instruction : Instruction) :
    (resolve instruction.resolved).events.filter (·.heading = .pathBit) = [] := by
  rw [filter_pathBit_resolve, resolved_resolved, pathBitReport?_self]
  rfl

end Instruction

end VliwPack
