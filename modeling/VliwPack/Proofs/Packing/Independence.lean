import VliwPack.Proofs.Packing.Correspondence

/-! # Regions are packed independently

What a recognizer has been used for before a region, packed to its end or not, shows in
its statistics only, and there it is added to what packing the region alone counts
(`Recognizer.pack_independent`). Every operation of a recognizer counts on top of what is
there (`Stats.add_countConflict`, `Stats.add_countClaim`), so packing with counters that
stand anywhere goes in lockstep with packing from zero.
-/

namespace VliwPack

instance : Add PathCounts where
  add one other :=
    { t1 := one.t1 + other.t1
      t2 := one.t2 + other.t2
      x1 := one.x1 + other.x1
      x2 := one.x2 + other.x2 }

/-- Statistics are added counter by counter. -/
instance : Add Stats where
  add one other :=
    { cycles := one.cycles + other.cycles
      bundles := one.bundles + other.bundles
      noopCycles := one.noopCycles + other.noopCycles
      instructions := one.instructions + other.instructions
      moves := one.moves + other.moves
      pseudo := one.pseudo + other.pseudo
      unitHazards := one.unitHazards + other.unitHazards
      movePressureHazards := one.movePressureHazards + other.movePressureHazards
      moveBudgetHazards := one.moveBudgetHazards + other.moveBudgetHazards
      pathHazards := one.pathHazards + other.pathHazards }

private theorem PathCounts.add_count (before counts : PathCounts) (path : CrossPath) :
    before + counts.count path = (before + counts).count path := by
  cases path <;> rfl

namespace Stats

variable (before stats : Stats)

/-- A conflict is counted over what was counted before. -/
theorem add_countConflict (conflict : Conflict) :
    before + stats.countConflict conflict = (before + stats).countConflict conflict := by
  cases conflict with
  | unitBusy | movePressure | moveBudget => rfl
  | crossPathBusy path =>
      exact congrArg (fun counts => { before + stats with pathHazards := counts })
        (PathCounts.add_count before.pathHazards stats.pathHazards path)

/-- A claim is counted over what was counted before. -/
theorem add_countClaim (claim : Claim) :
    before + stats.countClaim claim = (before + stats).countClaim claim := by
  cases claim <;> rfl

end Stats

namespace Recognizer

/-- The recognizer with its statistics on top of others. -/
def atop (before : Stats) (recognizer : Recognizer) : Recognizer :=
  { recognizer with stats := before + recognizer.stats }

end Recognizer

/-- Packing with statistics from before goes in lockstep with packing from zero. -/
def Correspondence.atop (before : Stats) : Correspondence where
  recognizer := Recognizer.atop before
  claim := id
  conflict := id
  pushed := id
  Compared first second := second = first
  isPseudo_eq same := congrArg (·.descriptor.isPseudo) same
  claim_eq same := by
    rw [same, Except.map_id]
    rfl
  resolved_eq same _ := congrArg Instruction.resolved same
  conflict?_eq one checked := one.conflict?_id checked
  counted_eq one found :=
    congrArg (Recognizer.mk one.occupancy) (before.add_countConflict one.stats found)
  booked_eq one made :=
    congrArg (Recognizer.mk (one.occupancy.add made)) (before.add_countClaim one.stats made)
  advanced_eq _ := rfl
  countBundle_eq _ := rfl

namespace Recognizer

/-- Packing after earlier regions corresponds to packing afresh, its counters put over theirs. -/
theorem corresponds_pack_atop (recognizer : Recognizer) (width : Nat)
    (region : List Instruction) :
    (Correspondence.atop recognizer.stats).Corresponds (Recognizer.pack {} width region)
      (recognizer.pack width region) := by
  apply Correspondence.pack_eq
  · exact List.forall₂_same.mpr fun _ _ => rfl
  · rfl

/-- Whatever a recognizer has been used for, packing a region ends with the same outcome,
announces the same bundles and leaves the same occupancy as packing the region alone, and
every counter then stands at what it stood at before and what packing the region alone
counts. -/
theorem pack_independent (recognizer : Recognizer) (width : Nat) (region : List Instruction) :
    let alone := Recognizer.pack {} width region
    let after := recognizer.pack width region
    after.outcome = alone.outcome ∧ after.calls = alone.calls ∧
      after.recognizer.occupancy = alone.recognizer.occupancy ∧
      after.recognizer.stats = recognizer.stats + alone.recognizer.stats := by
  have corresponds := recognizer.corresponds_pack_atop width region
  refine ⟨corresponds.outcome, ?_, ?_, ?_⟩
  · rw [corresponds.calls]
    exact (List.map_congr_left fun call _ => call.map_id).trans (List.map_id _)
  · rw [corresponds.recognizer]
    rfl
  · rw [corresponds.recognizer]
    rfl

end Recognizer

end VliwPack
