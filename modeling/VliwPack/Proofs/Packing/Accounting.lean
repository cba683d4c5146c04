import VliwPack.Proofs.Packing.Bundles
import VliwPack.Proofs.Packing.Run
import VliwPack.Proofs.Resolution.Reports

/-! # What packing accounts for

Every counter grows by the number of things that it stands for: bundles begun, instructions
pushed of each kind, conflicts found and cycles begun (`Packing.Counts`). What is reported
agrees with what is pushed (`Packing.Reports`). Both hold of every way that placing an
instruction can go, of stopping at a fault too, and so of every run
(`Recognizer.pack_accounts`). A cycle is closed because of a conflict or because of the
issue width, and never because of the width where that exceeds the machine's
(`Recognizer.tally_width_pack`). So what the statistics show after a region has all been
announced or reported (`Recognizer.pack_accounted`).
-/

namespace VliwPack

open Event Instruction

/-- The call begins a bundle. -/
def BundleCall.isBegin : BundleCall → Bool
  | begin _ => true
  | push _ => false

/-- The calls that announce a schedule begin each of its bundles. -/
theorem Schedule.countP_isBegin_calls (schedule : Schedule) :
    schedule.calls.countP BundleCall.isBegin = schedule.bundles.length := by
  have one (bundle : Bundle) : bundle.calls.countP BundleCall.isBegin = 1 := by
    have pushes : (bundle.instructions.map .push).countP BundleCall.isBegin = 0 := by
      simp [BundleCall.isBegin]
    rw [Bundle.calls, List.countP_cons, pushes]
    rfl
  rw [calls]
  induction schedule.bundles with
  | nil => rfl
  | cons bundle rest ih =>
      rw [List.flatMap_cons, List.countP_append, one, ih, List.length_cons, Nat.add_comm]

namespace Instruction

/-- The instruction takes a slot and is a move. -/
def takesMove (instruction : Instruction) : Bool :=
  instruction.takesSlot && instruction.descriptor.isMove

/-- The instruction takes a slot and is no move, so that it takes a unit. -/
def takesUnit (instruction : Instruction) : Bool :=
  instruction.takesSlot && !instruction.descriptor.isMove

/-- Resolving makes nothing a move. -/
@[simp] theorem takesMove_resolved (instruction : Instruction) :
    instruction.resolved.takesMove = instruction.takesMove := by
  rw [takesMove, takesSlot_resolved, descriptor_resolved, takesMove]

/-- Resolving gives and takes no unit. -/
@[simp] theorem takesUnit_resolved (instruction : Instruction) :
    instruction.resolved.takesUnit = instruction.takesUnit := by
  rw [takesUnit, takesSlot_resolved, descriptor_resolved, takesUnit]

end Instruction

/-! ### Counters after one step -/

namespace Stats

variable (stats : Stats)

/-- A conflict is one more hazard. -/
@[simp] theorem hazards_countConflict (conflict : Conflict) :
    (stats.countConflict conflict).hazards = stats.hazards + 1 := by
  cases conflict with
  | unitBusy | movePressure | moveBudget =>
      simp only [countConflict, hazards]
      omega
  | crossPathBusy path =>
      cases path <;> simp only [countConflict, hazards, PathCounts.count, PathCounts.total] <;>
        omega

/-- Counting a conflict changes nothing but counters of hazards. -/
theorem countConflict_eq (conflict : Conflict) :
    stats.countConflict conflict =
      { stats with
        unitHazards := (stats.countConflict conflict).unitHazards
        movePressureHazards := (stats.countConflict conflict).movePressureHazards
        moveBudgetHazards := (stats.countConflict conflict).moveBudgetHazards
        pathHazards := (stats.countConflict conflict).pathHazards } := by
  cases conflict <;> rfl

/-- Counting the claim of an instruction counts the instruction by its kind. -/
theorem countClaim_of_claim {instruction : Instruction} {claim : Claim}
    (claims : instruction.claim = .ok claim) :
    stats.countClaim claim =
      { stats with
        instructions := stats.instructions + [instruction].countP takesUnit
        moves := stats.moves + [instruction].countP takesMove
        pseudo := stats.pseudo + [instruction].countP (·.descriptor.isPseudo) } := by
  cases claiming_of_claim claims with
  | pseudo pseudo => simp [countClaim, takesUnit, takesMove, takesSlot, pseudo]
  | move real move => simp [countClaim, takesUnit, takesMove, takesSlot, real, move]
  | fixed real unmoved | written real unmoved =>
      simp [countClaim, takesUnit, takesMove, takesSlot, real, unmoved]

end Stats

namespace Packing

variable {packing : Packing} {width : Nat} {instruction : Instruction} {claim : Claim}
  {trail : Trail Packing (List BundleCall)}

/-- The instructions that calls push, in order. -/
def pushed (calls : List BundleCall) : List Instruction := calls.filterMap BundleCall.pushed?

/-- Calls push what their parts push. -/
@[simp] theorem pushed_append (first second : List BundleCall) :
    pushed (first ++ second) = pushed first ++ pushed second :=
  List.filterMap_append

private theorem stats_opened (packing : Packing) (instruction : Instruction) :
    packing.opened.recognizer.stats =
      { packing.recognizer.stats with
        bundles := packing.recognizer.stats.bundles +
          (announcement packing.cursor instruction).countP BundleCall.isBegin } := by
  unfold opened announcement
  split <;> rfl

/-- An instruction that joins is counted by its kind, and its bundle if it begins one. -/
theorem stats_joined (packing : Packing) (claims : instruction.claim = .ok claim) :
    (packing.joined claim).recognizer.stats =
      { packing.recognizer.stats with
        bundles := packing.recognizer.stats.bundles +
          (announcement packing.cursor instruction.resolved).countP BundleCall.isBegin
        instructions := packing.recognizer.stats.instructions + [instruction].countP takesUnit
        moves := packing.recognizer.stats.moves + [instruction].countP takesMove
        pseudo := packing.recognizer.stats.pseudo +
          [instruction].countP (·.descriptor.isPseudo) } := by
  have opened := stats_opened (packing.booked claim) instruction.resolved
  have booked : (packing.booked claim).recognizer.stats =
      packing.recognizer.stats.countClaim claim := rfl
  rw [booked, Stats.countClaim_of_claim _ claims] at opened
  exact opened

/-! ### What is reported of one instruction -/

/-- Checking an instruction is reported as a classification and a verdict. -/
theorem tally_checkEvents (instruction : Instruction) (claim : Claim) (verdict : Option Conflict)
    {heading : Heading} (reading : heading ≠ .reading) (pathBit : heading ≠ .pathBit) :
    tally (checkEvents instruction claim verdict) heading =
      tally [.classified instruction.name claim, .checked verdict] heading := by
  rw [checkEvents, tally_append, tally_resolve instruction reading pathBit, Nat.zero_add]

/-- Issuing an instruction is reported as a booking and a placement. -/
theorem tally_issueEvents (instruction : Instruction) (claim : Claim) (cycle : Nat)
    {heading : Heading} (reading : heading ≠ .reading) (pathBit : heading ≠ .pathBit) :
    tally (issueEvents instruction claim cycle) heading =
      tally [.booked claim, .placed instruction.name claim cycle] heading := by
  rw [issueEvents, tally_append, tally_resolve instruction reading pathBit, Nat.zero_add]

/-! ### What a stretch of packing accounts for -/

/-- How statistics grow over what is announced and reported. -/
structure Counts (before : Stats) (calls : List BundleCall) (events : List Event)
    (after : Stats) : Prop where
  /-- By every bundle begun. -/
  bundles : after.bundles = before.bundles + calls.countP BundleCall.isBegin
  /-- By every instruction pushed that takes a unit. -/
  instructions : after.instructions = before.instructions + (pushed calls).countP takesUnit
  /-- By every instruction pushed that is one of a side's moves. -/
  moves : after.moves = before.moves + (pushed calls).countP takesMove
  /-- By every pseudo instruction pushed. -/
  pseudo : after.pseudo = before.pseudo + (pushed calls).countP (·.descriptor.isPseudo)
  /-- By no empty cycle. -/
  noopCycles : after.noopCycles = before.noopCycles
  /-- By every conflict found. -/
  hazards : after.hazards = before.hazards + tally events .conflict
  /-- By every cycle begun after the first. -/
  cycles : after.cycles = before.cycles + tally events .advance

/-- How what is reported agrees with what is announced, and with itself. -/
structure Reports (calls : List BundleCall) (events : List Event) : Prop where
  /-- Every instruction pushed has been booked. -/
  bookings : tally events .booking = (pushed calls).length
  /-- Every instruction pushed that takes a slot has been found to fit. -/
  clearances : tally events .clearance = (pushed calls).countP takesSlot
  /-- It has been placed, too. -/
  placements : tally events .placement = (pushed calls).countP takesSlot
  /-- Every pseudo instruction pushed has been passed through. -/
  passages : tally events .pseudo = (pushed calls).countP (·.descriptor.isPseudo)
  /-- Every classification has a verdict. -/
  classifications : tally events .classification =
    tally events .conflict + tally events .clearance
  /-- Every cycle begun after the first has a cause. -/
  advances : tally events .advance = tally events .width + tally events .conflict
  /-- No path bit is refused. -/
  refusals : tally events .refusal = 0

/-- Over two stretches statistics grow by what they grow over each. -/
theorem Counts.append {first middle last : Stats} {calls more : List BundleCall}
    {events later : List Event} (before : Counts first calls events middle)
    (after : Counts middle more later last) :
    Counts first (calls ++ more) (events ++ later) last where
  bundles := by rw [after.bundles, before.bundles, List.countP_append, Nat.add_assoc]
  instructions := by
    rw [after.instructions, before.instructions, pushed_append, List.countP_append, Nat.add_assoc]
  moves := by rw [after.moves, before.moves, pushed_append, List.countP_append, Nat.add_assoc]
  pseudo := by rw [after.pseudo, before.pseudo, pushed_append, List.countP_append, Nat.add_assoc]
  noopCycles := after.noopCycles.trans before.noopCycles
  hazards := by rw [after.hazards, before.hazards, tally_append, Nat.add_assoc]
  cycles := by rw [after.cycles, before.cycles, tally_append, Nat.add_assoc]

/-- Reports on calls in a row are put together. -/
theorem Reports.append {calls more : List BundleCall} {events later : List Event}
    (before : Reports calls events) (after : Reports more later) :
    Reports (calls ++ more) (events ++ later) where
  bookings := by
    rw [tally_append, before.bookings, after.bookings, pushed_append, List.length_append]
  clearances := by
    rw [tally_append, before.clearances, after.clearances, pushed_append, List.countP_append]
  placements := by
    rw [tally_append, before.placements, after.placements, pushed_append, List.countP_append]
  passages := by
    rw [tally_append, before.passages, after.passages, pushed_append, List.countP_append]
  classifications := by
    simp only [tally_append, before.classifications, after.classifications]
    omega
  advances := by
    simp only [tally_append, before.advances, after.advances]
    omega
  refusals := by rw [tally_append, before.refusals, after.refusals]

/-- A stretch of packing accounts for what it announces. -/
structure Accounts (before : Stats) (calls : List BundleCall) (events : List Event)
    (after : Stats) : Prop where
  counts : Counts before calls events after
  reports : Reports calls events

namespace Accounts

variable (stats : Stats)

private theorem nothing : Accounts stats [] [] stats := by
  constructor <;> constructor <;> rfl

private theorem append {first middle last : Stats} {calls more : List BundleCall}
    {events later : List Event} (before : Accounts first calls events middle)
    (after : Accounts middle more later last) :
    Accounts first (calls ++ more) (events ++ later) last :=
  ⟨before.counts.append after.counts, before.reports.append after.reports⟩

/-- An instruction that does not resolve is reported as far as it is read. -/
theorem reading (instruction : Instruction) :
    Accounts stats [] (resolve instruction).events stats := by
  constructor <;> constructor <;> simp [pushed]

/-- A cycle is closed because of the issue width. -/
theorem overflow (width : Nat) :
    Accounts stats [] [.widthReached width, .advanced]
      { stats with cycles := stats.cycles + 1 } := by
  constructor <;> constructor <;> simp [pushed, heading, Stats.hazards]

/-- A cycle is closed because of a conflict. -/
theorem conflict (packing : Packing) (instruction : Instruction) (claim : Claim)
    (conflict : Conflict) :
    Accounts packing.recognizer.stats []
      (checkEvents instruction claim (some conflict) ++ [.advanced])
      (packing.counted conflict).advanced.recognizer.stats := by
  have only := packing.recognizer.stats.countConflict_eq conflict
  have hazards := packing.recognizer.stats.hazards_countConflict conflict
  have reported (heading : Heading) (reading : heading ≠ .reading) (pathBit : heading ≠ .pathBit) :
      tally (checkEvents instruction claim (some conflict) ++ [.advanced]) heading =
        tally [.classified instruction.name claim, .checked (some conflict), .advanced]
          heading := by
    rw [tally_append, tally_checkEvents instruction claim _ reading pathBit, ← tally_append]
    rfl
  constructor
  · constructor
    · exact (congrArg Stats.bundles only :)
    · exact (congrArg Stats.instructions only :)
    · exact (congrArg Stats.moves only :)
    · exact (congrArg Stats.pseudo only :)
    · exact (congrArg Stats.noopCycles only :)
    · rw [reported .conflict (by decide) (by decide)]
      exact hazards
    · rw [reported .advance (by decide) (by decide)]
      exact congrArg (·.cycles + 1) only
  · constructor <;> simp [reported, pushed, heading]

/-- An instruction that takes a slot joins the current cycle. -/
theorem joined (packing : Packing) {instruction : Instruction} {claim : Claim}
    (real : instruction.descriptor.isPseudo = false) (claims : instruction.claim = .ok claim) :
    Accounts packing.recognizer.stats (announcement packing.cursor instruction.resolved)
      (checkEvents instruction claim none ++
        issueEvents instruction.resolved claim packing.cursor.cycle)
      (packing.joined claim).recognizer.stats := by
  have slot : instruction.takesSlot = true := by simp [takesSlot, real]
  rw [stats_joined packing claims]
  constructor <;> constructor <;>
    simp [tally_checkEvents, tally_issueEvents, pushed, pushed_announcement, heading, slot, real,
      Stats.hazards]

/-- An instruction that takes no slot joins the current cycle. -/
theorem passed (packing : Packing) {instruction : Instruction}
    (pseudo : instruction.descriptor.isPseudo = true) :
    Accounts packing.recognizer.stats (announcement packing.cursor instruction)
      [.booked .pseudo, .pseudoPlaced instruction.name .pseudo]
      (packing.booked .pseudo).opened.recognizer.stats := by
  have slot : instruction.takesSlot = false := by simp [takesSlot, pseudo]
  rw [stats_opened (packing.booked .pseudo) instruction]
  constructor <;> constructor <;>
    simp [booked, Stats.countClaim, pushed, pushed_announcement, heading, slot, pseudo, takesUnit,
      takesMove, Stats.hazards]

end Accounts

/-- Whichever way placing an instruction goes, it accounts for what it announces. -/
theorem Placement.accounts (placed : Placement width packing instruction trail) :
    Accounts packing.recognizer.stats (announced trail.outcome) trail.events
      trail.state.recognizer.stats := by
  cases placed with
  | passes pseudo => exact .passed packing pseudo
  | joins real _ claims => exact .joined packing real claims
  | @conflicts claim conflict real _ claims =>
      have alsoReal : instruction.resolved.descriptor.isPseudo = false := by
        rw [descriptor_resolved, real]
      have again : instruction.resolved.claim = .ok claim := by rw [claim_resolved, claims]
      have joined := Accounts.joined (packing.counted conflict).advanced alsoReal again
      rw [resolved_resolved] at joined
      have closed := (Accounts.conflict packing instruction claim conflict).append joined
      rw [List.append_assoc, List.nil_append] at closed
      exact closed
  | overflows real _ claims =>
      have joined := Accounts.joined packing.advanced real claims
      exact (Accounts.overflow packing.recognizer.stats width).append joined
  | stops => exact .reading packing.recognizer.stats instruction
  | overflowsAndStops =>
      have read := Accounts.reading packing.advanced.recognizer.stats instruction
      exact (Accounts.overflow packing.recognizer.stats width).append read

/-- Every cycle begun has been reported. -/
theorem Placement.cycle (placed : Placement width packing instruction trail) :
    trail.state.cursor.cycle = packing.cursor.cycle + tally trail.events .advance := by
  cases placed <;> simp [tally_checkEvents, tally_issueEvents, heading]

/-- Where the issue width exceeds the machine's, no cycle is closed because of it. -/
theorem Placement.tally_width (wide : Machine.maxIssueWidth < width)
    (reached : Reached width packing) (placed : Placement width packing instruction trail) :
    tally trail.events .width = 0 := by
  have room : packing.cursor.issued < width :=
    Nat.lt_of_le_of_lt (reached.issued_le (Nat.zero_lt_of_lt wide)) wide
  cases placed with
  | passes | stops => simp [heading]
  | joins | conflicts => simp [tally_checkEvents, tally_issueEvents, heading]
  | overflows _ full | overflowsAndStops _ full => exact absurd room (Nat.not_lt.mpr full)

/-! ### What a run accounts for -/

/-- The cycles a run ends with are those begun before it and those it reports to begin. -/
theorem cycles_of_run {region : List Instruction} {cycles : Nat}
    (ends : (run width packing region).outcome = .ok cycles) (some : 0 < cycles) :
    cycles = packing.cursor.cycle + tally (run width packing region).events .advance + 1 := by
  induction region generalizing packing with
  | nil =>
      have span : packing.cursor.span = cycles := Except.ok.inj ends
      unfold Cursor.span at span
      split at span
      · exact span.symm
      · exact absurd span.symm (Nat.ne_of_gt some)
  | cons instruction rest ih =>
      obtain ⟨calls, events, next, step, ends⟩ := exists_placed_of_run ends
      have here := (placement width packing instruction).cycle
      rw [step] at here
      rw [run_of_placed step, PackResult.after, tally_append,
        ← Nat.add_assoc packing.cursor.cycle, ← here]
      exact ih ends

end Packing

namespace Recognizer

open Packing

variable {width : Nat}

/-- Packing a region accounts for what it announces, whether it ends with cycles or with a
fault. -/
theorem pack_accounts (recognizer : Recognizer) (width : Nat) (region : List Instruction) :
    Accounts recognizer.stats (recognizer.pack width region).calls
      (recognizer.pack width region).events (recognizer.pack width region).recognizer.stats :=
  run_of_placements (fun first calls events last => Accounts first.stats calls events last.stats)
    (fun first => .nothing first.stats) (fun _ placed => placed.accounts) .append
    (.start recognizer) region

/-- No cycle is closed for a width beyond that of the machine. -/
theorem tally_width_pack (wide : Machine.maxIssueWidth < width) (recognizer : Recognizer)
    (region : List Instruction) : tally (recognizer.pack width region).events .width = 0 := by
  apply run_of_placements (fun _ _ events _ => tally events .width = 0)
  · exact fun _ => rfl
  · exact fun reached placed => placed.tally_width wide reached
  · intro _ _ _ _ _ _ _ first later
    rw [tally_append, first, later]
  · exact .start recognizer

/-- A bundle is begun in each of the cycles that packing ends with. -/
theorem countP_isBegin_pack (positive : 0 < width) {recognizer : Recognizer}
    {region : List Instruction} {cycles : Nat}
    (packs : (recognizer.pack width region).outcome = .ok cycles) :
    (recognizer.pack width region).calls.countP BundleCall.isBegin = cycles := by
  obtain ⟨-, length⟩ := resolvable_and_length_of_pack positive packs
  rw [pack_calls positive, Schedule.countP_isBegin_calls, packed, Schedule.ofGroups,
    Bundle.length_numbered, List.length_map, length]

/-- However packing a region ends, every counter has grown by what it stands for: by the
bundles begun, by the instructions pushed of each kind, by the conflicts found, and by the
cycles begun, each because of a conflict or because of the issue width. If it ends with a
number of cycles, as many bundles have been begun, and all of these cycles but the first
have been counted. Where the issue width exceeds the machine's, cycles and hazards grow
alike. -/
theorem pack_accounted (positive : 0 < width) (recognizer : Recognizer)
    (region : List Instruction) :
    let result := recognizer.pack width region
    let pushed := result.calls.filterMap BundleCall.pushed?
    let before := recognizer.stats
    let after := result.recognizer.stats
    after.bundles = before.bundles + result.calls.countP BundleCall.isBegin ∧
      after.pseudo = before.pseudo + pushed.countP (·.descriptor.isPseudo) ∧
      after.moves = before.moves + pushed.countP (fun instruction =>
        !instruction.descriptor.isPseudo && instruction.descriptor.isMove) ∧
      after.instructions = before.instructions + pushed.countP (fun instruction =>
        !instruction.descriptor.isPseudo && !instruction.descriptor.isMove) ∧
      after.noopCycles = before.noopCycles ∧
      after.hazards = before.hazards + tally result.events .conflict ∧
      after.cycles = before.cycles + tally result.events .conflict +
        tally result.events .width ∧
      (∀ cycles, result.outcome = .ok cycles → 0 < cycles →
        after.bundles = before.bundles + cycles ∧ after.cycles + 1 = before.cycles + cycles) ∧
      (Machine.maxIssueWidth < width →
        after.hazards - before.hazards = after.cycles - before.cycles) := by
  intro result pushed before after
  obtain ⟨counts, reports⟩ : Accounts before result.calls result.events after :=
    recognizer.pack_accounts width region
  refine ⟨counts.bundles, counts.pseudo, counts.moves, counts.instructions, counts.noopCycles,
    counts.hazards, ?_, ?_, ?_⟩
  · rw [counts.cycles, reports.advances]
    omega
  · intro cycles packs some
    have spanned := cycles_of_run packs some
    have begun := countP_isBegin_pack positive packs
    refine ⟨by rw [counts.bundles, begun], ?_⟩
    rw [counts.cycles]
    have start : cycles = 0 + tally result.events .advance + 1 := spanned
    omega
  · intro wide
    have none : tally result.events .width = 0 := tally_width_pack wide recognizer region
    rw [counts.cycles, counts.hazards, reports.advances, none]
    omega

/-- Two additions on one unit, a label, and two copies. -/
def additionsAndCopies : List Instruction :=
  [.addition .a, .addition .a, .label, .copy .a, .copy .a]

/-- A narrow width closes a cycle, and a wide one leaves all of that to the hazards. -/
theorem pack_accounted_additionsAndCopies :
    let narrow := Recognizer.pack {} 2 additionsAndCopies
    let wide := Recognizer.pack {} 9 additionsAndCopies
    0 < 2 ∧ narrow.outcome = .ok 3 ∧
      narrow.recognizer.stats =
        { cycles := 2, bundles := 3, instructions := 2, moves := 2, pseudo := 1
          unitHazards := 1 } ∧
      2 = 0 + tally narrow.events .conflict + tally narrow.events .width ∧
      (3 = 0 + 3 ∧ 2 + 1 = 0 + 3) ∧ Machine.maxIssueWidth < 9 ∧
      wide.recognizer.stats.hazards - 0 = wide.recognizer.stats.cycles - 0 := by
  intro narrow wide
  have positive : 0 < 2 := by decide
  obtain ⟨_, _, _, _, _, _, cycles, spanned, _⟩ := pack_accounted positive {} additionsAndCopies
  obtain ⟨_, _, _, _, _, _, _, _, alike⟩ :=
    pack_accounted (Nat.zero_lt_succ 8) {} additionsAndCopies
  exact ⟨positive, rfl, rfl, cycles, spanned 3 rfl (by decide), by decide, alike (by decide)⟩

end Recognizer

end VliwPack
