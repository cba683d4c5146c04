import Mathlib.Data.List.Induction
import VliwPack.Proofs.Packing.Placement

/-! # Along a run

A run of packing places one instruction after another, so what holds of each placing and
goes over from two stretches of calls and events to both together holds of the whole run
(`Packing.run_of_placements`). It comes to no more cycles than it places instructions
(`Packing.cycle_le_length_of_begin_mem_pack`). Between two instructions packing is in a state
that it has reached by placing others (`Packing.Reached`). There it holds a legal packet
(`Packing.Reached.holds`), and a packet that is as wide as the machine leaves room for
nothing but pseudo instructions (`Packing.Reached.exists_conflict_of_full`).
-/

namespace VliwPack.Packing

open Instruction

variable {width : Nat} {packing next : Packing} {instruction : Instruction}

/-- The calls that a placing ends with: none if it ends with a fault. -/
def announced : Except Fault (List BundleCall) → List BundleCall
  | .ok calls => calls
  | .error _ => []

/-- A run goes on from where its first instruction has been placed. -/
theorem run_of_placed {calls : List BundleCall} {events : List Event}
    (placed : place width instruction packing = ⟨⟨.ok calls, events⟩, next⟩)
    (rest : List Instruction) :
    run width packing (instruction :: rest) = (run width next rest).after calls events := by
  rw [run, placed]

/-- A run ends with the fault of its first instruction. -/
theorem run_of_stopped {fault : Fault} {events : List Event}
    (stopped : place width instruction packing = ⟨⟨.error fault, events⟩, next⟩)
    (rest : List Instruction) :
    run width packing (instruction :: rest) =
      { outcome := .error fault, calls := [], events, recognizer := next.recognizer } := by
  rw [run, stopped]

/-- A run that ends with a number of cycles has placed its first instruction. -/
theorem exists_placed_of_run {rest : List Instruction} {cycles : Nat}
    (ends : (run width packing (instruction :: rest)).outcome = .ok cycles) :
    ∃ calls events next, place width instruction packing = ⟨⟨.ok calls, events⟩, next⟩ ∧
      (run width next rest).outcome = .ok cycles := by
  rcases step : place width instruction packing with ⟨⟨fault | calls, events⟩, next⟩
  · rw [run_of_stopped step] at ends
    cases ends
  · rw [run_of_placed step] at ends
    exact ⟨calls, events, next, rfl, ends⟩

/-! ### How far packing comes -/

/-- A bundle is begun in the cycle of the cursor. -/
private theorem eq_of_begin_mem_announcement {cursor : Cursor} {cycle : Nat}
    (begins : .begin cycle ∈ announcement cursor instruction) : cycle = cursor.cycle := by
  unfold announcement at begins
  split at begins
  · simp at begins
  · simpa using begins

/-- Placing an instruction comes to the next cycle at most, and begins no bundle beyond it. -/
theorem Placement.cycle_le {trail : Trail Packing (List BundleCall)}
    (placed : Placement width packing instruction trail) :
    trail.state.cursor.cycle ≤ packing.cursor.cycle + 1 ∧
      ∀ cycle, .begin cycle ∈ announced trail.outcome → cycle ≤ packing.cursor.cycle + 1 := by
  cases placed with
  | passes | joins =>
      refine ⟨by simp, fun cycle begins => ?_⟩
      rw [eq_of_begin_mem_announcement begins]
      exact Nat.le_succ _
  | conflicts | overflows | stops | overflowsAndStops => simp [announced]

/-- A run comes to at most one more cycle with each instruction. -/
theorem cycle_le_of_begin_mem_run {region : List Instruction} {cycle : Nat}
    (begins : .begin cycle ∈ (run width packing region).calls) :
    cycle ≤ packing.cursor.cycle + region.length := by
  induction region generalizing packing with
  | nil => cases begins
  | cons instruction rest ih =>
      obtain ⟨reached, here⟩ := (placement width packing instruction).cycle_le
      rcases step : place width instruction packing with ⟨⟨fault | calls, events⟩, next⟩
      · rw [run_of_stopped step] at begins
        cases begins
      · rw [step] at reached here
        rw [run_of_placed step] at begins
        rw [List.length_cons]
        rcases List.mem_append.mp begins with now | later
        · have soon := here cycle now
          omega
        · have least := ih later
          change next.cursor.cycle ≤ packing.cursor.cycle + 1 at reached
          omega

/-- Whatever the width, no bundle of a region begins in a cycle beyond the number of its
instructions, so a 64-bit count of cycles serves every region of fewer than `2 ^ 64 - 1`. -/
theorem cycle_le_length_of_begin_mem_pack {recognizer : Recognizer} {region : List Instruction}
    {cycle : Nat} (begins : .begin cycle ∈ (recognizer.pack width region).calls) :
    cycle ≤ region.length := by
  simpa using cycle_le_of_begin_mem_run begins

/-! ### The states between instructions -/

/-- Packing comes to this state by placing some instructions of a region. -/
inductive Reached (width : Nat) : Packing → Prop
  | start (recognizer : Recognizer) : Reached width { recognizer := recognizer.reset }
  | step {packing next : Packing} {instruction : Instruction} {calls : List BundleCall}
      {events : List Event} (reached : Reached width packing)
      (placed : place width instruction packing = ⟨⟨.ok calls, events⟩, next⟩) :
      Reached width next

/-- What holds where nothing is placed and of every placing, and of two stretches together
if it holds of both, holds of a run. -/
theorem run_of_placements
    (holds : Recognizer → List BundleCall → List Event → Recognizer → Prop)
    (nothing : ∀ recognizer, holds recognizer [] [] recognizer)
    (placing : ∀ {packing instruction trail}, Reached width packing →
      Placement width packing instruction trail →
      holds packing.recognizer (announced trail.outcome) trail.events trail.state.recognizer)
    (together : ∀ {first middle last calls more events later}, holds first calls events middle →
      holds middle more later last → holds first (calls ++ more) (events ++ later) last)
    (reached : Reached width packing) (region : List Instruction) :
    holds packing.recognizer (run width packing region).calls (run width packing region).events
      (run width packing region).recognizer := by
  induction region generalizing packing with
  | nil => exact nothing packing.recognizer
  | cons instruction rest ih =>
      have here := placing reached (placement width packing instruction)
      rcases step : place width instruction packing with ⟨⟨fault | calls, events⟩, next⟩
      · rw [step] at here
        rw [run_of_stopped step]
        exact here
      · rw [step] at here
        rw [run_of_placed step]
        exact together here (ih (reached.step step))

namespace Reached

/-- The current cycle holds a legal packet. -/
theorem holds (positive : 0 < width) (reached : Reached width packing) :
    ∃ group, packing.Holds group ∧ LegalPacket width group := by
  induction reached with
  | start recognizer => exact ⟨[], Holds.start recognizer, legalPacket_nil width⟩
  | @step packing next instruction calls events _ placed ih =>
      obtain ⟨group, held, legal⟩ := ih
      by_cases resolves : instruction.Resolves
      · by_cases joins : LegalPacket width (group ++ [instruction])
        · obtain ⟨_, _, step, held, _⟩ := held.place_of_joins joins
          rw [step] at placed
          cases placed
          exact ⟨_, held, joins⟩
        · obtain ⟨_, _, step, held, _⟩ := held.place_of_closes legal resolves joins
          rw [step] at placed
          cases placed
          exact ⟨_, held, legalPacket_singleton positive resolves⟩
      · obtain ⟨fault, fails⟩ := exists_fault_of_not_resolves resolves
        obtain ⟨_, _, stopped⟩ := place_of_fault packing width fails
        rw [stopped] at placed
        cases placed

/-- Every legal packet is held in some state that packing comes to. -/
theorem exists_holds {group : List Instruction} (legal : LegalPacket width group) :
    ∃ packing, Reached width packing ∧ packing.Holds group := by
  induction group using List.reverseRecOn with
  | nil => exact ⟨_, .start {}, Holds.start {}⟩
  | append_singleton group instruction ih =>
      obtain ⟨packing, reached, held⟩ := ih (legal.sublist (List.sublist_append_left _ _))
      obtain ⟨_, next, placed, longer, _⟩ := held.place_of_joins legal
      exact ⟨next, reached.step placed, longer⟩

/-- No cycle issues more instructions than the machine has units. -/
theorem issued_le (positive : 0 < width) (reached : Reached width packing) :
    packing.cursor.issued ≤ Machine.maxIssueWidth := by
  obtain ⟨group, held, legal⟩ := reached.holds positive
  rw [held.slots]
  exact Nat.le_trans legal.narrow.fits (Nat.min_le_right width _)

/-- In a cycle that issues as many instructions as the machine has units, every claim has a
conflict but that of a pseudo instruction. -/
theorem exists_conflict_of_full (positive : 0 < width) (reached : Reached width packing)
    (full : packing.cursor.issued = Machine.maxIssueWidth) {claim : Claim}
    (claims : claim ≠ .pseudo) :
    ∃ conflict, packing.recognizer.occupancy.conflict? claim = some conflict := by
  obtain ⟨group, held, legal⟩ := reached.holds positive
  cases found : packing.recognizer.occupancy.conflict? claim with
  | some conflict => exact ⟨conflict, rfl⟩
  | none =>
      -- One more claim would make legal claims of more instructions than there are units.
      have together := (held.conflict?_eq_none_iff legal claim).mp found
      have bound := together.countP_le
      have counted : (claimsOf group).countP (· != .pseudo) = Machine.maxIssueWidth := by
        rw [← countP_takesSlot legal.resolves, ← held.slots, full]
      have one : [claim].countP (· != .pseudo) = 1 := by simpa using claims
      rw [List.countP_append, counted, one] at bound
      exact absurd bound (Nat.not_succ_le_self _)

end Reached

end VliwPack.Packing
