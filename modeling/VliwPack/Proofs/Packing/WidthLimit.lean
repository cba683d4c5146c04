import VliwPack.Proofs.Packing.Accounting

/-! # An issue width that does not bind

An issue width of the machine's or more never closes a bundle that a conflict would not
have closed: the packets are the same (`packets_of_wide`), and a cycle that issues as many
instructions as the machine has units is closed by the next one in the same way, whether
the width closes it or a conflict (`Packing.Reached.closes_alike`). So such widths differ
in what they count as the cause of a new cycle only
(`Recognizer.pack_width_unbinding`).
-/

namespace VliwPack

open Instruction

variable {width : Nat}

/-! ### The packets of a wide packer -/

/-- Past the machine's own width, every width has the same legal packets. -/
theorem legalPacket_iff_of_wide (wide : Machine.maxIssueWidth ≤ width)
    (group : List Instruction) :
    LegalPacket width group ↔ LegalPacket Machine.maxIssueWidth group := by
  constructor
  · intro legal
    have narrow := legal.narrow
    rwa [Nat.min_eq_right wide] at narrow
  · exact fun legal => legal.wider wide

/-- Past the machine's own width, every width has the same packets. -/
theorem packets_of_wide (wide : Machine.maxIssueWidth ≤ width) (region : List Instruction) :
    packets width region = packets Machine.maxIssueWidth region := by
  have same (group : List Instruction) :
      LegalPacket width (group.map id) ↔ LegalPacket Machine.maxIssueWidth group := by
    rw [List.map_id]
    exact legalPacket_iff_of_wide wide group
  have cut := greedyCut_map same (resolvable region)
  rw [List.map_id] at cut
  rw [packets, packets, cut]
  exact (List.map_congr_left fun group _ => List.map_id group).trans (List.map_id _)

namespace Packing

variable {limit : Nat} {packing : Packing} {instruction : Instruction} {claim : Claim}

/-- An instruction with a conflict is the only one in the next cycle, whatever the issue
width is. -/
theorem place_of_conflict_at_any_width (width : Nat) {conflict : Conflict}
    (real : instruction.descriptor.isPseudo = false) (claims : instruction.claim = .ok claim)
    (found : packing.recognizer.occupancy.conflict? claim = some conflict) :
    let placed := place width instruction packing
    placed.outcome = .ok [.begin (packing.cursor.cycle + 1), .push instruction.resolved] ∧
      placed.state.cursor =
        { cycle := packing.cursor.cycle + 1, issued := 1, isOpen := true } ∧
      placed.state.recognizer.occupancy = Occupancy.empty.add claim := by
  rcases Nat.lt_or_ge packing.cursor.issued width with room | full
  · rw [place_of_conflict real room claims found]
    exact ⟨rfl, rfl, rfl⟩
  · rw [place_of_full real full claims]
    exact ⟨rfl, rfl, rfl⟩

namespace Reached

/-- After a cycle that issues as many instructions as the machine has units, an instruction
is issued in the next one, in the same way for all issue widths. -/
theorem closes_alike (positive : 0 < limit) (reached : Reached limit packing)
    (full : packing.cursor.issued = Machine.maxIssueWidth)
    (real : instruction.descriptor.isPseudo = false) (resolves : instruction.Resolves)
    (width wide : Nat) :
    let one := place width instruction packing
    let other := place wide instruction packing
    one.outcome = other.outcome ∧ one.state.cursor = other.state.cursor ∧
      one.state.recognizer.occupancy = other.state.recognizer.occupancy := by
  obtain ⟨claim, claims⟩ := resolves
  have something : claim ≠ .pseudo := by
    rw [ne_eq, eq_pseudo_iff_of_claim claims, real]
    exact Bool.false_ne_true
  obtain ⟨conflict, found⟩ := reached.exists_conflict_of_full positive full something
  obtain ⟨pushed, cursor, occupancy⟩ := place_of_conflict_at_any_width width real claims found
  obtain ⟨also, cursorToo, occupancyToo⟩ := place_of_conflict_at_any_width wide real claims found
  exact ⟨pushed.trans also.symm, cursor.trans cursorToo.symm, occupancy.trans occupancyToo.symm⟩

end Reached

end Packing

namespace Recognizer

open Packing

/-- Every issue width of the machine's or more announces the same bundles, ends with the
same outcome, and counts the same but for cycles and hazards. For in every state in which
as many instructions are issued in the current cycle as the machine has units, whatever
the issue width is, every claim has a conflict but that of a pseudo instruction, and the
cycle is closed in the same way by the conflict and by the width. -/
theorem pack_width_unbinding (wide : Machine.maxIssueWidth ≤ width) (recognizer : Recognizer)
    (region : List Instruction) :
    let result := recognizer.pack width region
    let narrow := recognizer.pack Machine.maxIssueWidth region
    result.calls = narrow.calls ∧ result.outcome = narrow.outcome ∧
      result.recognizer.stats.bundles = narrow.recognizer.stats.bundles ∧
      result.recognizer.stats.noopCycles = narrow.recognizer.stats.noopCycles ∧
      result.recognizer.stats.instructions = narrow.recognizer.stats.instructions ∧
      result.recognizer.stats.moves = narrow.recognizer.stats.moves ∧
      result.recognizer.stats.pseudo = narrow.recognizer.stats.pseudo ∧
      ∀ limit packing, 0 < limit → Reached limit packing →
        packing.cursor.issued = Machine.maxIssueWidth →
        (∀ claim, claim ≠ .pseudo →
          ∃ conflict, packing.recognizer.occupancy.conflict? claim = some conflict) ∧
        ∀ instruction, instruction.descriptor.isPseudo = false → instruction.Resolves →
          let closed := place Machine.maxIssueWidth instruction packing
          let conflicts := place width instruction packing
          closed.outcome = conflicts.outcome ∧ closed.state.cursor = conflicts.state.cursor ∧
            closed.state.recognizer.occupancy = conflicts.state.recognizer.occupancy := by
  have positive : 0 < Machine.maxIssueWidth := by decide
  have positiveToo : 0 < width := Nat.lt_of_lt_of_le positive wide
  intro result narrow
  have calls : result.calls = narrow.calls := by
    rw [pack_calls positiveToo, pack_calls positive, packed, packed, packets_of_wide wide]
  have outcome : result.outcome = narrow.outcome := by
    rw [pack_outcome positiveToo, pack_outcome positive, packets_of_wide wide]
  have counts : Counts recognizer.stats result.calls result.events result.recognizer.stats :=
    (recognizer.pack_accounts width region).counts
  have countsToo : Counts recognizer.stats narrow.calls narrow.events narrow.recognizer.stats :=
    (recognizer.pack_accounts Machine.maxIssueWidth region).counts
  rw [calls] at counts
  refine ⟨calls, outcome, ?_, ?_, ?_, ?_, ?_, ?_⟩
  · exact counts.bundles.trans countsToo.bundles.symm
  · exact counts.noopCycles.trans countsToo.noopCycles.symm
  · exact counts.instructions.trans countsToo.instructions.symm
  · exact counts.moves.trans countsToo.moves.symm
  · exact counts.pseudo.trans countsToo.pseudo.symm
  · intro limit packing some reached full
    refine ⟨fun claim => reached.exists_conflict_of_full some full, ?_⟩
    intro instruction real resolves
    exact reached.closes_alike some full real resolves Machine.maxIssueWidth width

/-- A multiplication on a side. -/
def multiplication (side : Side) : Instruction where
  descriptor := { name := "mpy", unit := .m, isUnitFixed := true, side }
  operands := []

/-- As many copies and multiplications as fit one cycle. -/
def fullCycle : List Instruction :=
  [.copy .a, .copy .a, .copy .a, multiplication .a, .copy .b, .copy .b, .copy .b,
    multiplication .b]

/-- The addition has no room left in the full cycle, whether the width says so or a conflict does.
-/
theorem pack_width_unbinding_fullCycle :
    let region := fullCycle ++ [.addition .a]
    Machine.maxIssueWidth ≤ 9 ∧
      (Recognizer.pack {} 9 region).outcome = .ok 2 ∧
      (Recognizer.pack {} 9 region).recognizer.stats.hazards = 1 ∧
      (Recognizer.pack {} 9 region).outcome =
        (Recognizer.pack {} Machine.maxIssueWidth region).outcome ∧
      (Recognizer.pack {} Machine.maxIssueWidth region).recognizer.stats.hazards = 0 ∧
      ∃ packing, Reached 9 packing ∧ packing.cursor.issued = Machine.maxIssueWidth ∧
        (place Machine.maxIssueWidth (.addition .a) packing).outcome =
          (place 9 (.addition .a) packing).outcome ∧
        ∃ conflict,
          packing.recognizer.occupancy.conflict? (.unit ⟨.l, .a⟩ none) = some conflict := by
  intro region
  have wide : Machine.maxIssueWidth ≤ 9 := by decide
  have legal : LegalPacket 9 fullCycle := by decide
  obtain ⟨packing, reached, held⟩ := Reached.exists_holds legal
  have full : packing.cursor.issued = Machine.maxIssueWidth := held.slots
  have positive : 0 < 9 := by decide
  have resolves : (addition .a).Resolves := by decide
  obtain ⟨-, outcome, -, -, -, -, -, closes⟩ := pack_width_unbinding wide {} region
  obtain ⟨conflicts, alike⟩ := closes 9 packing positive reached full
  exact ⟨wide, rfl, rfl, outcome, rfl, packing, reached, full, (alike _ rfl resolves).1,
    conflicts _ (by decide)⟩

end Recognizer

end VliwPack
