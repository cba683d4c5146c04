import VliwPack.Proofs.Packing.Accounting
import VliwPack.Proofs.Packing.Independence
import VliwPack.Proofs.Packing.Stopping

/-! # Leaving pseudo instructions out

A pseudo instruction may begin a bundle but never a cycle: it takes no slot and is never in
conflict. In a bundle that has been begun it only counts itself, so packing goes on in
lockstep with packing that leaves it out (`Packing.run_strips`); and since the first
instruction of a region fits its cycle whatever it is, the first bundle is begun in either
case (`Packing.run_eq_after_opened`). So where some instruction takes a slot, the
instructions that take one are packed into the same bundles without the others
(`Recognizer.pack_stripped`).
-/

namespace VliwPack

open Instruction

/-- The call remains when pseudo instructions are left out. -/
def BundleCall.remains : BundleCall → Bool
  | begin _ => true
  | push instruction => instruction.takesSlot

/-- The bundle without the instructions that take no slot. -/
def Bundle.stripped (bundle : Bundle) : Bundle := { bundle with instructions := bundle.issued }

/-- The calls that remain announce the bundles without the instructions that take no slot. -/
theorem Schedule.filter_remains_calls (schedule : Schedule) :
    schedule.calls.filter BundleCall.remains =
      (Schedule.mk (schedule.bundles.map Bundle.stripped)).calls := by
  have one (bundle : Bundle) :
      bundle.calls.filter BundleCall.remains = bundle.stripped.calls := by
    rw [Bundle.calls, List.filter_cons_of_pos rfl, List.filter_map]
    rfl
  rw [calls, calls, List.flatMap_map]
  induction schedule.bundles with
  | nil => rfl
  | cons bundle rest ih => rw [List.flatMap_cons, List.filter_append, one, ih, List.flatMap_cons]

/-- All calls remain if every instruction pushed takes a slot. -/
theorem BundleCall.filter_remains_eq_self {calls : List BundleCall}
    (slots : ∀ instruction ∈ calls.filterMap pushed?, instruction.takesSlot = true) :
    calls.filter remains = calls := by
  rw [List.filter_eq_self]
  intro call member
  cases call with
  | begin cycle => rfl
  | push instruction => exact slots instruction (List.mem_filterMap.mpr ⟨_, member, rfl⟩)

private theorem Occupancy.add_pseudo (occupancy : Occupancy) :
    occupancy.add .pseudo = occupancy := by
  simp [add, Claim.unit?, Claim.path?, Claim.moveSide?]

private theorem PathCounts.zero_add (counts : PathCounts) : {} + counts = counts := by
  show PathCounts.mk (0 + counts.t1) (0 + counts.t2) (0 + counts.x1) (0 + counts.x2) = counts
  simp only [Nat.zero_add]

/-- Pseudo instructions that were counted before are added to those counted after. -/
theorem Stats.pseudo_add (count : Nat) (stats : Stats) :
    ({ pseudo := count } : Stats) + stats = { stats with pseudo := count + stats.pseudo } := by
  have zero := PathCounts.zero_add stats.pathHazards
  show Stats.mk (0 + stats.cycles) (0 + stats.bundles) (0 + stats.noopCycles)
    (0 + stats.instructions) (0 + stats.moves) (count + stats.pseudo) (0 + stats.unitHazards)
    (0 + stats.movePressureHazards) (0 + stats.moveBudgetHazards) ({} + stats.pathHazards) = _
  simp only [Nat.zero_add, zero]

private theorem Recognizer.atop_zero (recognizer : Recognizer) :
    recognizer.atop { pseudo := 0 } = recognizer := by
  rw [atop, Stats.pseudo_add, Nat.zero_add]

/-- A pseudo instruction that is booked could have been counted before. -/
theorem Recognizer.booked_pseudo_atop (count : Nat) (recognizer : Recognizer) :
    (recognizer.atop { pseudo := count }).booked .pseudo =
      recognizer.atop { pseudo := count + 1 } := by
  unfold booked atop
  rw [Occupancy.add_pseudo, Stats.pseudo_add, Stats.pseudo_add, Stats.countClaim]
  dsimp only
  rw [Nat.add_right_comm]

namespace Packing

variable {packing : Packing} {width : Nat} {instruction : Instruction} {claim : Claim}

/-! ### The first bundle -/

private theorem opened_of_isOpen (isOpen : packing.cursor.isOpen = true) :
    packing.opened = packing :=
  if_pos isOpen

/-- It does not matter whether a claim is booked before its bundle is begun. -/
theorem booked_opened (packing : Packing) (claim : Claim) :
    packing.opened.booked claim = (packing.booked claim).opened := by
  by_cases isOpen : packing.cursor.isOpen = true
  · have also : (packing.booked claim).cursor.isOpen = true := isOpen
    rw [opened_of_isOpen isOpen, opened_of_isOpen also]
  · have also : ¬ (packing.booked claim).cursor.isOpen = true := isOpen
    rw [opened, opened, if_neg isOpen, if_neg also]
    cases claim <;> rfl

private theorem opened_booked_opened (packing : Packing) (claim : Claim) :
    (packing.opened.booked claim).opened = (packing.booked claim).opened := by
  rw [booked_opened, opened_of_isOpen (isOpen_opened _)]

private theorem joined_opened (packing : Packing) (claim : Claim) :
    packing.opened.joined claim = packing.joined claim := by
  unfold joined
  rw [opened_booked_opened]

/-- The first instruction of a cycle begins its bundle, so the bundle could have been begun
before. -/
theorem run_eq_after_opened (closed : packing.cursor.isOpen = false)
    (room : packing.cursor.issued < width) (claims : instruction.claim = .ok claim)
    (fits : packing.recognizer.occupancy.conflict? claim = none) (rest : List Instruction) :
    run width packing (instruction :: rest) =
      (run width packing.opened (instruction :: rest)).after
        [.begin packing.cursor.cycle] [] := by
  have begins (other : Instruction) :
      announcement packing.cursor other =
        .begin packing.cursor.cycle :: announcement packing.opened.cursor other := by
    rw [announcement, announcement, if_pos (isOpen_opened packing), closed]
    rfl
  cases real : instruction.descriptor.isPseudo with
  | true =>
      rw [run_of_placed (place_of_pseudo real), run_of_placed (place_of_pseudo real), begins,
        opened_booked_opened]
      rfl
  | false =>
      have roomToo : packing.opened.cursor.issued < width := by rwa [issued_opened]
      have fitsToo : packing.opened.recognizer.occupancy.conflict? claim = none := by
        rwa [occupancy_opened]
      rw [run_of_placed (place_of_fits real room claims fits),
        run_of_placed (place_of_fits real roomToo claims fitsToo), begins, joined_opened,
        cycle_opened]
      rfl

/-! ### Packing on without pseudo instructions -/

/-- What is left of a result when the pseudo instructions are left out of the region. -/
structure Strips (whole bare : PackResult) : Prop where
  outcome : bare.outcome = whole.outcome
  calls : bare.calls = whole.calls.filter BundleCall.remains
  /-- Pseudo instructions have been counted, but nothing else. -/
  recognizer : ∃ count, whole.recognizer = bare.recognizer.atop { pseudo := count }

/-- Placing an instruction does not depend on what has been counted before. -/
theorem place_atop (before : Stats) (width : Nat) (packing : Packing)
    (instruction : Instruction) :
    ∃ events, place width instruction ((Correspondence.atop before).packing packing) =
      ⟨⟨(place width instruction packing).outcome, events⟩,
        (Correspondence.atop before).packing (place width instruction packing).state⟩ := by
  have compared : (Correspondence.atop before).Compared instruction instruction := rfl
  obtain ⟨outcome, state⟩ := Correspondence.follows_place compared width packing
  have same : List.map (BundleCall.map (Correspondence.atop before).pushed) = id := by
    funext calls
    exact (List.map_congr_left fun call _ => call.map_id).trans (List.map_id calls)
  rw [same, Except.map_id, id] at outcome
  refine ⟨(place width instruction ((Correspondence.atop before).packing packing)).events, ?_⟩
  rw [← outcome, ← state]

/-- In a cycle whose bundle has been begun, packing goes in lockstep with packing that
leaves the pseudo instructions out. -/
theorem run_strips (isOpen : packing.cursor.isOpen = true) (width count : Nat)
    (region : List Instruction) :
    Strips (run width ((Correspondence.atop { pseudo := count }).packing packing) region)
      (run width packing (region.filter takesSlot)) := by
  -- By induction on the region. A pseudo instruction is a step of the first packing only,
  -- after which one more has been counted; any other is the same step of both.
  induction region generalizing packing count with
  | nil => exact ⟨rfl, rfl, count, rfl⟩
  | cons instruction rest ih =>
      cases slot : instruction.takesSlot with
      | false =>
          have pseudo : instruction.descriptor.isPseudo = true := by simpa [takesSlot] using slot
          have counted :
              (((Correspondence.atop { pseudo := count }).packing packing).booked .pseudo).opened =
                (Correspondence.atop { pseudo := count + 1 }).packing packing := by
            rw [opened_of_isOpen (by exact isOpen)]
            exact congrArg (Packing.mk · packing.cursor)
              (Recognizer.booked_pseudo_atop count packing.recognizer)
          obtain ⟨outcome, calls, recognizer⟩ := ih isOpen (count + 1)
          rw [run_of_placed (place_of_pseudo pseudo), counted,
            List.filter_cons_of_neg (by simp [slot])]
          refine ⟨outcome, ?_, recognizer⟩
          have pushes : announcement packing.cursor instruction = [.push instruction] :=
            if_pos isOpen
          have dropped : [BundleCall.push instruction].filter BundleCall.remains = [] := by
            simp [BundleCall.remains, slot]
          rw [calls, PackResult.after, List.filter_append]
          exact (congrArg (· ++ _) (pushes ▸ dropped)).symm
      | true =>
          rw [List.filter_cons_of_pos slot]
          obtain ⟨reported, also⟩ := place_atop { pseudo := count } width packing instruction
          rcases step : place width instruction packing with ⟨⟨fault | calls, events⟩, next⟩
          · rw [step] at also
            rw [run_of_stopped step, run_of_stopped also]
            exact ⟨rfl, rfl, count, rfl⟩
          · have placed := placement width packing instruction
            rw [step] at also placed
            have kept : calls.filter BundleCall.remains = calls := by
              apply BundleCall.filter_remains_eq_self
              rw [placed.pushed rfl]
              simpa using slot
            obtain ⟨outcome, later, recognizer⟩ := ih (placed.isOpen rfl) count
            rw [run_of_placed step, run_of_placed also]
            refine ⟨outcome, ?_, recognizer⟩
            rw [PackResult.after, PackResult.after, List.filter_append, kept, later]

end Packing

namespace Recognizer

open Packing

variable {width : Nat}

/-- The first bundle of a region could have been begun before the first instruction. -/
theorem pack_eq_after_opened (positive : 0 < width) (recognizer : Recognizer)
    {region : List Instruction} (nonempty : region ≠ [])
    (resolves : ∀ instruction ∈ region, instruction.Resolves) :
    recognizer.pack width region =
      (run width (opened { recognizer := recognizer.reset }) region).after [.begin 0] [] := by
  cases region with
  | nil => exact absurd rfl nonempty
  | cons instruction rest =>
      obtain ⟨claim, claims⟩ := resolves instruction List.mem_cons_self
      exact run_eq_after_opened rfl positive claims (Occupancy.conflict?_empty claim) rest

/-- Packing goes in lockstep with packing that leaves the pseudo instructions out, if
anything is left. -/
theorem pack_strips (positive : 0 < width) (recognizer : Recognizer) {region : List Instruction}
    (some : ∃ instruction ∈ region, instruction.takesSlot = true)
    (resolves : ∀ instruction ∈ region, instruction.Resolves) :
    Strips (recognizer.pack width region)
      (recognizer.pack width (region.filter takesSlot)) := by
  obtain ⟨instruction, member, slot⟩ := some
  have kept : instruction ∈ region.filter takesSlot := List.mem_filter.mpr ⟨member, slot⟩
  have resolvesToo : ∀ instruction ∈ region.filter takesSlot, instruction.Resolves :=
    fun instruction among => resolves instruction (List.mem_of_mem_filter among)
  let start : Packing := opened { recognizer := recognizer.reset }
  have begun : start.cursor.isOpen = true := isOpen_opened _
  have alone : (Correspondence.atop { pseudo := 0 }).packing start = start :=
    congrArg (Packing.mk · start.cursor) start.recognizer.atop_zero
  have strips := run_strips begun width 0 region
  rw [alone] at strips
  rw [pack_eq_after_opened positive recognizer (List.ne_nil_of_mem member) resolves,
    pack_eq_after_opened positive recognizer (List.ne_nil_of_mem kept) resolvesToo]
  exact ⟨strips.outcome, congrArg (BundleCall.begin 0 :: ·) strips.calls, strips.recognizer⟩

/-- Without pseudo instructions none are counted. -/
theorem pseudo_pack_filter (recognizer : Recognizer) (width : Nat) (region : List Instruction) :
    (recognizer.pack width (region.filter takesSlot)).recognizer.stats.pseudo =
      recognizer.stats.pseudo := by
  have counts := (recognizer.pack_accounts width (region.filter takesSlot)).counts
  have pushed : pushed (recognizer.pack width (region.filter takesSlot)).calls =
      (resolvable (region.filter takesSlot)).map resolved :=
    pushed_run { recognizer := recognizer.reset } width (region.filter takesSlot)
  rw [counts.pseudo, pushed, List.countP_map, Nat.add_eq_left, List.countP_eq_zero]
  intro instruction member
  have slot := List.of_mem_filter ((List.takeWhile_sublist _).subset member)
  simpa [takesSlot] using slot

/-- When packing a region in which some instruction takes a slot ends with a number of cycles,
packing the region without its pseudo instructions ends with as many. Its bundles stand in
the same cycles and hold the same instructions without the pseudo ones, and but for these
it counts the same. -/
theorem pack_stripped (positive : 0 < width) (recognizer : Recognizer)
    {region : List Instruction} {cycles : Nat}
    (some : ∃ instruction ∈ region, instruction.descriptor.isPseudo = false)
    (packs : (recognizer.pack width region).outcome = .ok cycles) :
    let whole := recognizer.pack width region
    let bare := recognizer.pack width
      (region.filter fun instruction => !instruction.descriptor.isPseudo)
    bare.outcome = .ok cycles ∧
      bare.schedule.bundles = whole.schedule.bundles.map Bundle.stripped ∧
      bare.recognizer.occupancy = whole.recognizer.occupancy ∧
      bare.recognizer.stats =
        { whole.recognizer.stats with pseudo := recognizer.stats.pseudo } := by
  intro whole bare
  obtain ⟨outcome, calls, count, counted⟩ : Strips whole bare :=
    recognizer.pack_strips positive (by simpa [takesSlot] using some) (resolves_of_pack packs)
  refine ⟨outcome.trans packs, ?_, ?_, ?_⟩
  · have announced : whole.calls = (packed width region).calls := pack_calls positive _ _
    have built : whole.schedule = packed width region := pack_schedule positive _ _
    rw [PackResult.schedule, calls, announced, Schedule.filter_remains_calls,
      Schedule.ofCalls_calls, built]
  · rw [counted]
    rfl
  · have none : bare.recognizer.stats.pseudo = recognizer.stats.pseudo :=
      recognizer.pseudo_pack_filter width region
    have added : whole.recognizer.stats =
        { bare.recognizer.stats with pseudo := count + bare.recognizer.stats.pseudo } := by
      rw [counted, ← Stats.pseudo_add]
      rfl
    rw [added, ← none]

/-- Two additions on one unit, and labels before, between and after them. -/
def labelledAdditions : List Instruction := .label :: twoAdditions ++ [.label]

/-- The labels stay with the addition before them, or with the first one, and cost no cycle. -/
theorem pack_stripped_labelledAdditions :
    let whole := Recognizer.pack {} 4 labelledAdditions
    let bare := Recognizer.pack {} 4 [addition .a, flexibleAddition .b]
    0 < 4 ∧ (∃ instruction ∈ labelledAdditions, instruction.descriptor.isPseudo = false) ∧
      whole.outcome = .ok 2 ∧
      (whole.schedule.bundles.map fun bundle => bundle.instructions.map Instruction.name) =
        [["label", "add", "label"], ["add", "label"]] ∧
      bare.outcome = .ok 2 ∧
      bare.schedule.bundles = whole.schedule.bundles.map Bundle.stripped ∧
      bare.recognizer.stats = { whole.recognizer.stats with pseudo := 0 } := by
  intro whole bare
  have positive : 0 < 4 := by decide
  have some : ∃ instruction ∈ labelledAdditions, instruction.descriptor.isPseudo = false := by
    decide
  have packs : whole.outcome = .ok 2 := rfl
  obtain ⟨outcome, bundles, -, counted⟩ := pack_stripped positive {} some packs
  exact ⟨positive, some, packs, by decide, outcome, bundles, counted⟩

end Recognizer

end VliwPack
