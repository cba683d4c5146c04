import Mathlib.Data.List.TakeWhile
import VliwPack.Proofs.Packing.Announcement
import VliwPack.Proofs.Packing.Placement

/-! # What packing a region announces

Packing a region announces the greedy cutting of it into legal packets, each
instruction with its path bit written (`Recognizer.pack_calls`). It ends with as many
cycles as there are packets, unless an instruction does not resolve: then the packets
are those of the instructions before the first such one, whose fault is the outcome
(`Recognizer.pack_outcome`).
-/

namespace VliwPack

open Instruction

/-- The instructions before the first that does not resolve. -/
def resolvable (region : List Instruction) : List Instruction :=
  region.takeWhile (·.Resolves)

/-- What is resolvable of a region resolves. -/
theorem resolves_of_mem_resolvable {region : List Instruction} {instruction : Instruction}
    (member : instruction ∈ resolvable region) : instruction.Resolves := by
  simpa using List.mem_takeWhile_imp member

/-- A region is resolvable as a whole if each of its instructions resolves. -/
theorem resolvable_eq_self {region : List Instruction}
    (resolves : ∀ instruction ∈ region, instruction.Resolves) : resolvable region = region :=
  List.takeWhile_eq_self_iff.mpr fun instruction member =>
    decide_eq_true (resolves instruction member)

private theorem resolvable_cons_of_resolves {instruction : Instruction}
    (resolves : instruction.Resolves)
    (rest : List Instruction) : resolvable (instruction :: rest) = instruction :: resolvable rest :=
  List.takeWhile_cons_of_pos (decide_eq_true resolves)

private theorem resolvable_cons_of_fault {instruction : Instruction} {fault : Fault}
    (fails : instruction.claim = .error fault) (rest : List Instruction) :
    resolvable (instruction :: rest) = [] := by
  apply List.takeWhile_cons_of_neg
  rw [decide_eq_true_eq]
  exact not_resolves_of_fault fails

/-! ### Reading the claims of a region -/

private theorem mapM_claim_cons_of_claim {instruction : Instruction} {claim : Claim}
    (claims : instruction.claim = .ok claim) (rest : List Instruction) :
    (instruction :: rest).mapM Instruction.claim =
      (rest.mapM Instruction.claim).map (claim :: ·) := by
  rw [List.mapM_cons, claims]
  cases rest.mapM Instruction.claim <;> rfl

private theorem mapM_claim_cons_of_fault {instruction : Instruction} {fault : Fault}
    (fails : instruction.claim = .error fault) (rest : List Instruction) :
    (instruction :: rest).mapM Instruction.claim = .error fault := by
  rw [List.mapM_cons, fails]
  rfl

/-- The claims of a region are all read if its instructions resolve. -/
theorem mapM_claim_of_resolves {region : List Instruction}
    (resolves : ∀ instruction ∈ region, instruction.Resolves) :
    ∃ claims, region.mapM Instruction.claim = .ok claims := by
  induction region with
  | nil => exact ⟨[], rfl⟩
  | cons instruction rest ih =>
      obtain ⟨⟨claim, claims⟩, there⟩ := List.forall_mem_cons.mp resolves
      obtain ⟨others, read⟩ := ih there
      refine ⟨claim :: others, ?_⟩
      rw [mapM_claim_cons_of_claim claims, read]
      rfl

/-- The instructions of a region resolve if its claims are all read. -/
theorem resolves_of_mapM_claim {region : List Instruction} {claims : List Claim}
    (read : region.mapM Instruction.claim = .ok claims) :
    ∀ instruction ∈ region, instruction.Resolves := by
  induction region generalizing claims with
  | nil => exact fun _ member => nomatch member
  | cons instruction rest ih =>
      cases first : instruction.claim with
      | error fault =>
          rw [mapM_claim_cons_of_fault first] at read
          cases read
      | ok claim =>
          rw [mapM_claim_cons_of_claim first] at read
          cases others : rest.mapM Instruction.claim with
          | error fault =>
              rw [others] at read
              cases read
          | ok remaining => exact List.forall_mem_cons.mpr ⟨⟨claim, first⟩, ih others⟩

/-- A fault in reading the claims of a region is that of one of its instructions. -/
theorem exists_fault_of_mapM_claim {region : List Instruction} {fault : Fault}
    (fails : region.mapM Instruction.claim = .error fault) :
    ∃ instruction ∈ region, instruction.claim = .error fault := by
  induction region with
  | nil => cases fails
  | cons instruction rest ih =>
      cases first : instruction.claim with
      | error other =>
          rw [mapM_claim_cons_of_fault first] at fails
          cases fails
          exact ⟨instruction, List.mem_cons_self, first⟩
      | ok claim =>
          rw [mapM_claim_cons_of_claim first] at fails
          cases others : rest.mapM Instruction.claim with
          | error other =>
              rw [others] at fails
              cases fails
              obtain ⟨culprit, member, stops⟩ := ih others
              exact ⟨culprit, List.mem_cons_of_mem _ member, stops⟩
          | ok remaining =>
              rw [others] at fails
              cases fails

/-! ### The packets of a region -/

/-- The packets of a region: the greedy cutting of its instructions, up to the first
that does not resolve. -/
def packets (width : Nat) (region : List Instruction) : List (List Instruction) :=
  greedyCut (LegalPacket width) (resolvable region)

/-- The schedule of a region: its packets in successive cycles, with the path bits
written. -/
def packed (width : Nat) (region : List Instruction) : Schedule :=
  .ofGroups ((packets width region).map (List.map resolved))

/-- The packets cut the instructions that resolve into legal packets. -/
theorem cutting_packets {width : Nat} (positive : 0 < width) (region : List Instruction) :
    Cutting (LegalPacket width) (resolvable region) (packets width region) :=
  cutting_greedyCut fun _ member =>
    legalPacket_singleton positive (resolves_of_mem_resolvable member)

/-! ### Packing announces them -/

namespace Packing

variable {packing : Packing} {width : Nat} {group rest : List Instruction}
  {instruction : Instruction} {claim : Claim} {fault : Fault}

/-- The instructions before the first that does not resolve are pushed, in order and as
resolving leaves them. -/
theorem pushed_run (packing : Packing) (width : Nat) (region : List Instruction) :
    (run width packing region).calls.filterMap BundleCall.pushed? =
      (resolvable region).map resolved := by
  induction region generalizing packing with
  | nil => rfl
  | cons instruction rest ih =>
      cases claims : instruction.claim with
      | error fault =>
          rw [(run_of_fault packing width claims rest).2, resolvable_cons_of_fault claims]
          rfl
      | ok claim =>
          have resolves : instruction.Resolves := ⟨claim, claims⟩
          obtain ⟨calls, events, next, placed, pushed⟩ := place_of_resolves packing width resolves
          have continued : run width packing (instruction :: rest) =
              (run width next rest).after calls events := by
            rw [run, placed]
          rw [continued, PackResult.after, resolvable_cons_of_resolves resolves,
            List.filterMap_append, pushed, ih next]
          rfl

/-- The result completes the announcement of the greedy cutting of a region after a
group that has been announced in the current cycle. -/
structure Completes (width : Nat) (packing : Packing) (group rest : List Instruction)
    (result : PackResult) : Prop where
  /-- Every instruction resolves and the cycles of all groups are counted, or the first
  fault is the outcome. -/
  outcome : result.outcome = (rest.mapM Instruction.claim).map fun _ =>
    packing.cursor.cycle + (greedyCutAfter (LegalPacket width) group (resolvable rest)).length
  /-- The calls after those for the group are those for what the cutting adds. -/
  calls : Bundle.calls ⟨packing.cursor.cycle, group.map resolved⟩ ++ result.calls =
    (Bundle.numbered packing.cursor.cycle
      ((greedyCutAfter (LegalPacket width) group (resolvable rest)).map
        (List.map resolved))).flatMap Bundle.calls

private theorem announcement_of_holds (holds : packing.Holds group) (nonempty : group ≠ [])
    (instruction : Instruction) :
    announcement packing.cursor instruction = [.push instruction] := by
  rw [announcement, holds.opens]
  simp [nonempty]

/-- Where the next instruction joins the group, the rest completes the longer group. -/
theorem Completes.of_joins {events : List Event} {next : Packing} {result : PackResult}
    (claims : instruction.claim = .ok claim) (joins : LegalPacket width (group ++ [instruction]))
    (cycle : next.cursor.cycle = packing.cursor.cycle)
    (remaining : Completes width next (group ++ [instruction]) rest result) :
    Completes width packing group (instruction :: rest)
      (result.after [.push instruction.resolved] events) where
  outcome := by
    rw [PackResult.after, remaining.outcome, resolvable_cons_of_resolves ⟨claim, claims⟩,
      greedyCutAfter, if_pos joins, cycle, mapM_claim_cons_of_claim claims]
    cases rest.mapM Instruction.claim <;> rfl
  calls := by
    have calls := remaining.calls
    rw [cycle] at calls
    rw [resolvable_cons_of_resolves ⟨claim, claims⟩, greedyCutAfter, if_pos joins, ← calls]
    simp [PackResult.after, Bundle.calls]

/-- Where the next instruction closes the group, the rest completes the group it
begins. -/
theorem Completes.of_closes {events : List Event} {next : Packing} {result : PackResult}
    (claims : instruction.claim = .ok claim)
    (closes : ¬ LegalPacket width (group ++ [instruction]))
    (cycle : next.cursor.cycle = packing.cursor.cycle + 1)
    (remaining : Completes width next [instruction] rest result) :
    Completes width packing group (instruction :: rest)
      (result.after [.begin (packing.cursor.cycle + 1), .push instruction.resolved] events) where
  outcome := by
    rw [PackResult.after, remaining.outcome, resolvable_cons_of_resolves ⟨claim, claims⟩,
      greedyCutAfter, if_neg closes, cycle, mapM_claim_cons_of_claim claims, List.length_cons,
      Nat.add_assoc, Nat.add_comm 1]
    cases rest.mapM Instruction.claim <;> rfl
  calls := by
    have calls := remaining.calls
    rw [cycle] at calls
    rw [resolvable_cons_of_resolves ⟨claim, claims⟩, greedyCutAfter, if_neg closes, List.map_cons,
      Bundle.numbered, List.flatMap_cons, ← calls]
    simp [PackResult.after, Bundle.calls]

/-- Where the next instruction does not resolve, the group is the last. -/
theorem Completes.of_fault (fails : instruction.claim = .error fault) {result : PackResult}
    (outcome : result.outcome = .error fault) (calls : result.calls = []) :
    Completes width packing group (instruction :: rest) result where
  outcome := by
    rw [outcome, mapM_claim_cons_of_fault fails]
    rfl
  calls := by
    rw [calls, resolvable_cons_of_fault fails, greedyCutAfter]
    simp [Bundle.numbered]

/-- Packing the rest of a region completes the group issued in the current cycle. -/
theorem run_completes (positive : 0 < width) (holds : packing.Holds group) (nonempty : group ≠ [])
    (legal : LegalPacket width group) :
    Completes width packing group rest (run width packing rest) := by
  -- By induction on the rest of the region: the group issued in the current cycle is the
  -- last of the cutting so far, so what the recognizer decides is what the cutting decides.
  induction rest generalizing packing group with
  | nil =>
      refine ⟨?_, ?_⟩
      · simp [run, Cursor.span, holds.opens, nonempty, Except.map]
        rfl
      · simp [run, resolvable, greedyCutAfter, Bundle.numbered]
  | cons instruction rest ih =>
      cases claims : instruction.claim with
      | error fault =>
          obtain ⟨outcome, calls⟩ := run_of_fault packing width claims rest
          exact Completes.of_fault claims outcome calls
      | ok claim =>
          unfold run
          have resolves : instruction.Resolves := ⟨claim, claims⟩
          by_cases joins : LegalPacket width (group ++ [instruction])
          · obtain ⟨events, next, step, held, cycle⟩ := holds.place_of_joins joins
            rw [step, announcement_of_holds holds nonempty]
            exact (ih held (by simp) joins).of_joins claims joins cycle
          · obtain ⟨events, next, step, held, cycle⟩ := holds.place_of_closes legal resolves joins
            rw [step]
            have single := legalPacket_singleton positive resolves
            exact (ih held (List.cons_ne_nil _ _) single).of_closes claims joins cycle

end Packing

namespace Recognizer

variable {width : Nat}

/-- A region whose first instruction does not resolve ends there. -/
theorem pack_of_fault (recognizer : Recognizer) {instruction : Instruction} {fault : Fault}
    (fails : instruction.claim = .error fault) (rest : List Instruction) :
    (recognizer.pack width (instruction :: rest)).outcome = .error fault ∧
      (recognizer.pack width (instruction :: rest)).calls = [] := by
  exact Packing.run_of_fault { recognizer := recognizer.reset } width fails rest

/-- A region whose first instruction resolves is packed after it. -/
theorem pack_of_resolves (positive : 0 < width) (recognizer : Recognizer)
    {instruction : Instruction} (resolves : instruction.Resolves) (rest : List Instruction) :
    ∃ events next, next.cursor.cycle = 0 ∧
      recognizer.pack width (instruction :: rest) =
        (Packing.run width next rest).after [.begin 0, .push instruction.resolved] events ∧
      Packing.Completes width next [instruction] rest (Packing.run width next rest) := by
  have single : LegalPacket width ([] ++ [instruction]) :=
    legalPacket_singleton positive resolves
  obtain ⟨events, next, step, held, cycle⟩ :=
    (Packing.Holds.start recognizer).place_of_joins single
  refine ⟨events, next, cycle, ?_, Packing.run_completes positive held (by simp) single⟩
  rw [pack, Packing.run, step]
  rfl

/-- Packing a region announces its schedule. -/
theorem pack_calls (positive : 0 < width) (recognizer : Recognizer) (region : List Instruction) :
    (recognizer.pack width region).calls = (packed width region).calls := by
  cases region with
  | nil => rfl
  | cons instruction rest =>
      unfold packed packets
      cases claims : instruction.claim with
      | error fault =>
          rw [(recognizer.pack_of_fault claims rest).2, resolvable_cons_of_fault claims]
          rfl
      | ok claim =>
          have resolves : instruction.Resolves := ⟨claim, claims⟩
          obtain ⟨events, next, cycle, result, completes⟩ :=
            recognizer.pack_of_resolves positive resolves rest
          have calls := completes.calls
          rw [cycle] at calls
          rw [result, resolvable_cons_of_resolves resolves]
          exact calls

/-- Whatever was packed before, the schedule of a region is its packets. -/
theorem pack_schedule (positive : 0 < width) (recognizer : Recognizer)
    (region : List Instruction) :
    (recognizer.pack width region).schedule = packed width region := by
  rw [PackResult.schedule, pack_calls positive, Schedule.ofCalls_calls]

/-- Packing a region ends with its number of packets, or with the first fault. -/
theorem pack_outcome (positive : 0 < width) (recognizer : Recognizer)
    (region : List Instruction) :
    (recognizer.pack width region).outcome =
      (region.mapM Instruction.claim).map fun _ => (packets width region).length := by
  cases region with
  | nil => rfl
  | cons instruction rest =>
      unfold packets
      cases claims : instruction.claim with
      | error fault =>
          rw [(recognizer.pack_of_fault claims rest).1, mapM_claim_cons_of_fault claims]
          rfl
      | ok claim =>
          have resolves : instruction.Resolves := ⟨claim, claims⟩
          obtain ⟨events, next, cycle, result, completes⟩ :=
            recognizer.pack_of_resolves positive resolves rest
          have outcome := completes.outcome
          rw [cycle, Nat.zero_add] at outcome
          rw [result, PackResult.after, outcome, resolvable_cons_of_resolves resolves,
            mapM_claim_cons_of_claim claims]
          cases rest.mapM Instruction.claim <;> rfl

/-- Packing what resolves takes as many cycles as there are packets. -/
theorem pack_outcome_of_resolves (positive : 0 < width) (recognizer : Recognizer)
    {region : List Instruction} (resolves : ∀ instruction ∈ region, instruction.Resolves) :
    (recognizer.pack width region).outcome = .ok (packets width region).length := by
  obtain ⟨claims, read⟩ := mapM_claim_of_resolves resolves
  rw [pack_outcome positive, read]
  rfl

end Recognizer

end VliwPack
