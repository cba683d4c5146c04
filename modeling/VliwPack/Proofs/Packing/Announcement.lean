import VliwPack.Schedule
import VliwPack.Proofs.Packing.Cutting

/-! # The calls that announce a schedule

A schedule is announced bundle by bundle (`Schedule.calls`), and the calls that
announce it build it (`Schedule.ofCalls_calls`). Groups of instructions become a
schedule by numbering them from cycle 0 (`Schedule.ofGroups`).
-/

namespace VliwPack

/-- The calls that announce a bundle: it begins, and its instructions are pushed. -/
def Bundle.calls (bundle : Bundle) : List BundleCall :=
  .begin bundle.cycle :: bundle.instructions.map .push

/-- Groups of instructions as the bundles of successive cycles. -/
def Bundle.numbered (first : Nat) : List (List Instruction) → List Bundle
  | [] => []
  | group :: later => ⟨first, group⟩ :: numbered (first + 1) later

/-- The bundle a number of cycles later. -/
def Bundle.delayed (cycles : Nat) (bundle : Bundle) : Bundle :=
  { bundle with cycle := bundle.cycle + cycles }

namespace Schedule

/-- The calls that announce the bundles in order. -/
def calls (schedule : Schedule) : List BundleCall := schedule.bundles.flatMap Bundle.calls

/-- Groups of instructions in the cycles from 0 on. -/
def ofGroups (groups : List (List Instruction)) : Schedule := ⟨Bundle.numbered 0 groups⟩

/-- The cycle of each instruction, in order. -/
def placements (schedule : Schedule) : List Nat :=
  schedule.bundles.flatMap fun bundle => List.replicate bundle.instructions.length bundle.cycle

/-! ### Announcing and building -/

/-- An instruction is pushed to the last bundle. -/
theorem pushLast_append_singleton (instruction : Instruction) (bundles : List Bundle)
    (last : Bundle) :
    pushLast instruction (bundles ++ [last]) =
      bundles ++ [{ last with instructions := last.instructions ++ [instruction] }] := by
  induction bundles with
  | nil => rfl
  | cons bundle rest ih =>
      rw [List.cons_append, pushLast, ih, List.cons_append]
      simp

/-- The pushes of a group add it to the last bundle. -/
theorem foldl_accept_push (bundles : List Bundle) (last : Bundle) (group : List Instruction) :
    (group.map .push).foldl accept ⟨bundles ++ [last]⟩ =
      ⟨bundles ++ [{ last with instructions := last.instructions ++ group }]⟩ := by
  induction group generalizing last with
  | nil => simp
  | cons instruction rest ih =>
      rw [List.map_cons, List.foldl_cons, accept, pushLast_append_singleton, ih,
        List.append_assoc, List.singleton_append]

/-- The calls of bundles add them to a schedule. -/
theorem foldl_accept_calls (done bundles : List Bundle) :
    (bundles.flatMap Bundle.calls).foldl accept ⟨done⟩ = ⟨done ++ bundles⟩ := by
  induction bundles generalizing done with
  | nil => simp
  | cons bundle rest ih =>
      rw [List.flatMap_cons, List.foldl_append, Bundle.calls, List.foldl_cons, accept,
        foldl_accept_push, ih, List.append_assoc]
      rfl

/-- The calls that announce a schedule build it. -/
theorem ofCalls_calls (schedule : Schedule) : ofCalls schedule.calls = schedule :=
  foldl_accept_calls [] schedule.bundles

end Schedule

/-! ### Numbering groups -/

namespace Bundle

variable (first : Nat) (groups : List (List Instruction))

/-- Each group is a bundle. -/
@[simp] theorem length_numbered : (numbered first groups).length = groups.length := by
  induction groups generalizing first with
  | nil => rfl
  | cons group later ih => simp [numbered, ih]

/-- Successive bundles have successive cycles. -/
theorem map_cycle_numbered :
    (numbered first groups).map cycle = List.range' first groups.length := by
  induction groups generalizing first with
  | nil => rfl
  | cons group later ih => simp [numbered, ih, List.range'_succ]

/-- The bundles hold the groups. -/
@[simp] theorem map_instructions_numbered : (numbered first groups).map instructions = groups := by
  induction groups generalizing first with
  | nil => rfl
  | cons group later ih => simp [numbered, ih]

/-- Without its first groups, a numbering goes on from a later cycle. -/
theorem drop_numbered (skipped : Nat) :
    (numbered first groups).drop skipped = numbered (first + skipped) (groups.drop skipped) := by
  induction skipped generalizing first groups with
  | zero => rfl
  | succ skipped ih =>
      cases groups with
      | nil => rfl
      | cons group later =>
          rw [numbered, List.drop_succ_cons, ih, List.drop_succ_cons, Nat.add_assoc,
            Nat.add_comm 1]

/-- Delayed bundles are numbered from a later cycle. -/
theorem map_delayed_numbered (cycles : Nat) :
    (numbered first groups).map (delayed cycles) = numbered (first + cycles) groups := by
  induction groups generalizing first with
  | nil => rfl
  | cons group later ih =>
      rw [numbered, List.map_cons, ih, numbered, Nat.add_right_comm]
      rfl

end Bundle

namespace Schedule

variable (groups : List (List Instruction))

/-- The schedule holds the instructions of the groups, in order. -/
@[simp] theorem instructions_ofGroups : (ofGroups groups).instructions = groups.flatten := by
  rw [instructions, List.flatMap_def, ofGroups, Bundle.map_instructions_numbered]

/-- The cycle of an instruction is the number of its group. -/
theorem placements_ofGroups : (ofGroups groups).placements = groupNumbers 0 groups := by
  suffices numbered : ∀ first, (⟨Bundle.numbered first groups⟩ : Schedule).placements =
      groupNumbers first groups from numbered 0
  induction groups with
  | nil => exact fun _ => rfl
  | cons group later ih =>
      intro first
      have remaining := ih (first + 1)
      simp only [placements] at remaining ⊢
      rw [Bundle.numbered, List.flatMap_cons, remaining, groupNumbers]

/-- Each bundle holds one of the groups. -/
theorem mem_ofGroups {bundle : Bundle} (member : bundle ∈ (ofGroups groups).bundles) :
    bundle.instructions ∈ groups := by
  have group := List.mem_map_of_mem (f := Bundle.instructions) member
  rwa [ofGroups, Bundle.map_instructions_numbered] at group

/-- A schedule of groups spans as many cycles as there are groups. -/
theorem cycles_ofGroups : (ofGroups groups).cycles = groups.length := by
  have last : (ofGroups groups).bundles.getLast?.map Bundle.cycle =
      if groups.length = 0 then none else some (0 + groups.length - 1) := by
    rw [← List.getLast?_map, ofGroups, Bundle.map_cycle_numbered, List.getLast?_range']
  unfold cycles
  cases found : (ofGroups groups).bundles.getLast? with
  | none =>
      rw [found, Option.map_none] at last
      split at last
      next empty => exact empty.symm
      next => cases last
  | some bundle =>
      rw [found, Option.map_some] at last
      split at last
      next => cases last
      next =>
        injection last with cycle
        dsimp only
        omega

end Schedule

end VliwPack
