import VliwPack.Proofs.Packing.Accounting
import VliwPack.Proofs.Packing.Stopping

/-! # The log of packing

The messages that packing reports number what it does. Each instruction is resolved two or
three times, but its path bit is changed at most once: placing an instruction reports the
path bit exactly if resolving leaves another format field behind
(`Packing.Placement.filter_pathBit`), and so does packing for every instruction of the region
(`Packing.filter_pathBit_run`). All other messages number instructions, conflicts or cycles,
as packing accounts for them (`Recognizer.pack_logged`).
-/

namespace VliwPack

open Event Instruction

namespace Packing

variable {packing : Packing} {width : Nat} {instruction : Instruction}
  {trail : Trail Packing (List BundleCall)}

private theorem filter_pathBit_checkEvents (instruction : Instruction) (claim : Claim)
    (verdict : Option Conflict) :
    (checkEvents instruction claim verdict).filter (·.heading = .pathBit) =
      (pathBitReport? instruction instruction.resolved).toList := by
  rw [checkEvents, List.filter_append, filter_pathBit_resolve]
  cases verdict <;> exact List.append_nil _

/-- What is issued has been resolved before, so its path bit stays. -/
theorem filter_pathBit_issueEvents (instruction : Instruction) (claim : Claim) (cycle : Nat) :
    (issueEvents instruction.resolved claim cycle).filter (·.heading = .pathBit) = [] := by
  rw [issueEvents, List.filter_append, filter_pathBit_resolve_resolved]
  rfl

/-- An instruction that is placed reports its path bit once if resolving changes its format
field, and else not at all. -/
theorem Placement.filter_pathBit (placed : Placement width packing instruction trail)
    {calls : List BundleCall} (ends : trail.outcome = .ok calls) :
    trail.events.filter (·.heading = .pathBit) =
      (pathBitReport? instruction instruction.resolved).toList := by
  cases placed with
  | passes pseudo =>
      rw [resolved_of_isPseudo pseudo, pathBitReport?_self]
      rfl
  | joins =>
      rw [List.filter_append, filter_pathBit_checkEvents, filter_pathBit_issueEvents,
        List.append_nil]
  | conflicts =>
      -- The second check is of an instruction that has been resolved, like the issue.
      rw [List.filter_append, filter_pathBit_checkEvents,
        List.filter_cons_of_neg (by simp [heading]), List.filter_append,
        filter_pathBit_checkEvents, filter_pathBit_issueEvents, resolved_resolved,
        pathBitReport?_self]
      exact List.append_nil _
  | overflows =>
      rw [List.filter_cons_of_neg (by simp [heading]), List.filter_cons_of_neg (by simp [heading]),
        List.filter_append, filter_pathBit_checkEvents, filter_pathBit_issueEvents,
        List.append_nil]
  | stops | overflowsAndStops => cases ends

/-- A run reports the path bits that are written, in the order of the instructions. -/
theorem filter_pathBit_run {region : List Instruction} {cycles : Nat}
    (ends : (run width packing region).outcome = .ok cycles) :
    (run width packing region).events.filter (·.heading = .pathBit) =
      region.filterMap fun instruction => pathBitReport? instruction instruction.resolved := by
  induction region generalizing packing with
  | nil => rfl
  | cons instruction rest ih =>
      obtain ⟨calls, events, next, step, ends⟩ := exists_placed_of_run ends
      have placed := placement width packing instruction
      rw [step] at placed
      have here : events.filter (·.heading = .pathBit) = _ := placed.filter_pathBit rfl
      rw [run_of_placed step, PackResult.after, List.filter_append, ih ends, here,
        List.filterMap_cons]
      cases pathBitReport? instruction instruction.resolved <;> rfl

end Packing

namespace Recognizer

open Packing

variable {width : Nat}

/-- When packing a region ends with a number of cycles, its log numbers what was done: the
instructions pushed, those that take a slot and those that do not, the conflicts, the
checks, and the cycles begun, each because of a conflict or because of the issue width. A
path bit is reported once for every instruction whose format field has changed, in the order
of the region, for no other instruction, and none is refused. -/
theorem pack_logged (recognizer : Recognizer) {region : List Instruction} {cycles : Nat}
    (packs : (recognizer.pack width region).outcome = .ok cycles) :
    let result := recognizer.pack width region
    let pushed := result.calls.filterMap BundleCall.pushed?
    let log := result.events.map Event.message
    let conflicts := log.countP (· ∈ Conflict.messages)
    log.count "--emit" = pushed.length ∧
      log.count "--no hazard" = pushed.countP (!·.descriptor.isPseudo) ∧
      log.count "booked" = pushed.countP (!·.descriptor.isPseudo) ∧
      log.count "pseudo" = pushed.countP (·.descriptor.isPseudo) ∧
      result.recognizer.stats.hazards = recognizer.stats.hazards + conflicts ∧
      log.count "classify" = conflicts + log.count "--no hazard" ∧
      result.recognizer.stats.cycles = recognizer.stats.cycles + log.count "--advance" ∧
      log.count "--advance" = log.count "issue width reached" + conflicts ∧
      region.length = pushed.length ∧
      result.events.filter (·.message ∈ ["XPATH set to: 0", "XPATH set to: 1"]) =
        (region.zip pushed).filterMap (fun (before, after) => pathBitReport? before after) ∧
      log.count "cannot set XPATH, fixed instruction" = 0 := by
  intro result pushed log conflicts
  obtain ⟨counts, reports⟩ : Accounts recognizer.stats result.calls result.events
      result.recognizer.stats := recognizer.pack_accounts width region
  have inOrder : pushed = region.map resolved := by
    have begun := pushed_run { recognizer := recognizer.reset } width region
    rwa [resolvable_eq_self (resolves_of_pack packs)] at begun
  have single (heading : Heading) {text : String} (only : heading.messages = [text]) :
      log.count text = tally result.events heading :=
    (tally_eq_count_message result.events only).symm
  have several : conflicts = tally result.events .conflict :=
    (tally_eq_countP_message result.events .conflict).symm
  have pathBits : result.events.filter (·.message ∈ ["XPATH set to: 0", "XPATH set to: 1"]) =
      result.events.filter (·.heading = .pathBit) := by
    apply List.filter_congr
    intro event _
    rw [decide_eq_decide]
    exact (event.heading_eq_iff .pathBit).symm
  have paired : region.zip (region.map resolved) =
      region.map fun instruction => (instruction, instruction.resolved) := by
    rw [← List.zip_map', List.map_id']
  have emitted := single .booking rfl
  have cleared := single .clearance rfl
  have placed := single .placement rfl
  have passed := single .pseudo rfl
  have classified := single .classification rfl
  have advanced := single .advance rfl
  have closed := single .width rfl
  have refused := single .refusal rfl
  refine ⟨emitted.trans reports.bookings, cleared.trans reports.clearances,
    placed.trans reports.placements, passed.trans reports.passages, ?_, ?_, ?_, ?_, ?_, ?_,
    refused.trans reports.refusals⟩
  · rw [several, counts.hazards]
  · rw [several, classified, cleared, reports.classifications]
  · rw [advanced, counts.cycles]
  · rw [advanced, closed, several, reports.advances]
  · rw [inOrder, List.length_map]
  · rw [pathBits, inOrder, paired, List.filterMap_map]
    exact filter_pathBit_run packs

/-- Only the second addition has a path bit to be set. -/
theorem pack_logged_twoAdditionsAndCopies :
    let region := twoAdditions ++ [.copy .a, .copy .a]
    let result := Recognizer.pack {} 2 region
    let log := result.events.map Event.message
    result.outcome = .ok 3 ∧
      log.count "--emit" = 5 ∧ log.count "--no hazard" = 4 ∧ log.count "pseudo" = 1 ∧
      log.count "--advance" = 1 + log.countP (· ∈ Conflict.messages) ∧
      result.events.filter (·.message ∈ ["XPATH set to: 0", "XPATH set to: 1"]) =
        [.pathBitSet "add" true] := by
  intro region result log
  have packs : result.outcome = .ok 3 := rfl
  obtain ⟨emitted, cleared, _, passed, _, _, _, advanced, _, pathBits, _⟩ := pack_logged {} packs
  exact ⟨packs, emitted, cleared, passed, advanced, pathBits⟩

end Recognizer

end VliwPack
