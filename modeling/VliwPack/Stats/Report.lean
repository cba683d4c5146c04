import VliwPack.Binary64
import VliwPack.Stats

/-! # The statistics report

A table of all counters, with the instructions per bundle to four decimal places
and the hazards by cause.
-/

namespace VliwPack.Stats

/-- Instructions and moves per bundle, zero when there is no bundle. -/
def instructionsPerBundle (stats : Stats) : Binary64 :=
  if stats.bundles = 0 then
    .zero
  else
    (Binary64.ofNat (stats.instructions + stats.moves)).div (.ofNat stats.bundles)

/-- A rule of the table, made of one character. -/
def rule (c : Char) : String := String.ofList (List.replicate 58 c)

/-- A row of the table: the label takes 25 columns. -/
def row (label value : String) : String :=
  label ++ String.ofList (List.replicate (25 - label.length) ' ') ++ value

/-- The lines of the report. -/
def reportLines (stats : Stats) : List String :=
  [rule '=',
    "C64X SCHEDULING STATISTICS",
    rule '=',
    row "sched_cycles" (toString stats.cycles),
    row "sched_bundles" (toString stats.bundles),
    row "sched_noops" (toString stats.noopCycles),
    row "sched_insts" (toString stats.instructions),
    row "sched_moves" (toString stats.moves),
    row "sched_pseudo" (toString stats.pseudo),
    row "sched_ipb" (stats.instructionsPerBundle.fixed 4),
    rule '-',
    "HAZARDS",
    row "  hazard.total" (toString stats.hazards),
    row "  hazard.unit" (toString stats.unitHazards),
    row "  hazard.move_pressure" (toString stats.movePressureHazards),
    row "  hazard.move_budget" (toString stats.moveBudgetHazards)] ++
  CrossPath.all.map (fun path =>
    row ("  hazard.xpath." ++ path.text) (toString (stats.pathHazards.get path))) ++
  [rule '-']

/-- The report, without a line end after its last line. -/
def report (stats : Stats) : String := String.intercalate "\n" stats.reportLines

end VliwPack.Stats
