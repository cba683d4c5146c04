import VliwPack.Proofs.Cycle.Booking
import VliwPack.Proofs.Recognizer.Operations

/-! # What an operation may change

A query of the recognizer leaves the occupancy as it is and counts nothing but the conflict it
finds (`Recognizer.Queried`). A booking that is made changes what its claim names and one
counter (`Recognizer.Booked`). An operation that ends with a fault changes nothing, whether
the candidate could not be resolved or its unit had issued. This holds of the recognizer in
every state, those included that no driver reaches who books only what fits
(`Recognizer.operations_confined`).

Counters are told apart by name (`Counter`), so that what is not counted can be said of all of
them at once.
-/

namespace VliwPack

/-- A counter of the statistics. -/
inductive Counter where
  | cycles
  | bundles
  | noopCycles
  | instructions
  | moves
  | pseudo
  | unitHazards
  | movePressureHazards
  | moveBudgetHazards
  | pathHazards (path : CrossPath)
  deriving DecidableEq

/-- The counter of the hazards with this cause. -/
def Conflict.counter : Conflict → Counter
  | unitBusy _ => .unitHazards
  | movePressure _ => .movePressureHazards
  | moveBudget _ => .moveBudgetHazards
  | crossPathBusy path => .pathHazards path

/-- The counter of the bookings of this kind. -/
def Claim.counter : Claim → Counter
  | pseudo => .pseudo
  | unit _ _ => .instructions
  | move _ _ => .moves

private theorem PathCounts.get_count (counts : PathCounts) (path other : CrossPath) :
    (counts.count path).get other = counts.get other + if other = path then 1 else 0 := by
  cases path <;> cases other <;> rfl

namespace Stats

/-- Where a counter stands. -/
def get (stats : Stats) : Counter → Nat
  | .cycles => stats.cycles
  | .bundles => stats.bundles
  | .noopCycles => stats.noopCycles
  | .instructions => stats.instructions
  | .moves => stats.moves
  | .pseudo => stats.pseudo
  | .unitHazards => stats.unitHazards
  | .movePressureHazards => stats.movePressureHazards
  | .moveBudgetHazards => stats.moveBudgetHazards
  | .pathHazards path => stats.pathHazards.get path

/-- One counter has grown by one, and the others stand where they stood. -/
def Ticks (counter : Counter) (before after : Stats) : Prop :=
  ∀ other, after.get other = before.get other + if other = counter then 1 else 0

/-- A conflict is counted once, by its cause. -/
theorem ticks_countConflict (stats : Stats) (conflict : Conflict) :
    Ticks conflict.counter stats (stats.countConflict conflict) := by
  intro other
  cases conflict with
  | unitBusy | movePressure | moveBudget => cases other <;> rfl
  | crossPathBusy path =>
      cases other with
      | pathHazards other =>
          simp only [Conflict.counter, Counter.pathHazards.injEq]
          exact stats.pathHazards.get_count path other
      | _ => rfl

private theorem ticks_countClaim (stats : Stats) (claim : Claim) :
    Ticks claim.counter stats (stats.countClaim claim) := by
  intro other
  cases claim <;> cases other <;> rfl

end Stats

namespace Recognizer

open Claim

variable {recognizer : Recognizer} {instruction : Instruction} {claim : Claim} {fault : Fault}

/-- A claim has been checked with this verdict, and nothing else has changed. -/
structure Queried (verdict : Option Conflict) (before after : Recognizer) : Prop where
  occupancy : after.occupancy = before.occupancy
  /-- A claim that fits is not counted. -/
  cleared : verdict = none → after.stats = before.stats
  /-- A conflict is counted once, under its cause. -/
  counted : ∀ conflict, verdict = some conflict →
    Stats.Ticks conflict.counter before.stats after.stats

/-- The claim has been booked, and nothing else has changed. -/
structure Booked (claim : Claim) (before after : Recognizer) : Prop where
  /-- The unit was idle and is active. -/
  unit : ∀ unit, claim.unit? = some unit →
    before.occupancy.active unit = false ∧ after.occupancy.active unit = true
  otherUnits : ∀ unit, claim.unit? ≠ some unit →
    after.occupancy.active unit = before.occupancy.active unit
  /-- The path is taken, and may have been before. -/
  path : ∀ path, claim.path? = some path → after.occupancy.taken path = true
  otherPaths : ∀ path, claim.path? ≠ some path →
    after.occupancy.taken path = before.occupancy.taken path
  move : ∀ side, claim.moveSide? = some side →
    after.occupancy.moves side = before.occupancy.moves side + 1
  otherMoves : ∀ side, claim.moveSide? ≠ some side →
    after.occupancy.moves side = before.occupancy.moves side
  counted : Stats.Ticks claim.counter before.stats after.stats

/-! ### Queries -/

/-- Counting a verdict is all that a query does. -/
theorem queried_countVerdict (recognizer : Recognizer) (verdict : Option Conflict) :
    Queried verdict recognizer (recognizer.countVerdict verdict) where
  occupancy := recognizer.occupancy_countVerdict verdict
  cleared fits := by rw [fits, countVerdict_none]
  counted := by
    rintro conflict rfl
    exact recognizer.stats.ticks_countConflict conflict

private theorem queried_check (recognizer : Recognizer) (claim : Claim) :
    Queried (recognizer.occupancy.conflict? claim) recognizer (check claim recognizer).state := by
  rw [check_apply]
  exact recognizer.queried_countVerdict _

/-- A candidate that cannot be classified leaves the recognizer alone. -/
theorem eq_of_classify_error (fails : (classify (recognizer, instruction)).outcome = .error fault) :
    (classify (recognizer, instruction)).state.1 = recognizer := by
  cases claims : instruction.claim with
  | error other => rw [classify_apply_of_fault claims]
  | ok claim =>
      rw [classify_apply_of_claim claims] at fails
      cases fails

/-- Classifying a candidate is a query for its claim. -/
theorem queried_of_classify {verdict : Option Conflict}
    (judged : (classify (recognizer, instruction)).outcome = .ok verdict) :
    (∃ claim, instruction.claim = .ok claim ∧
        verdict = recognizer.occupancy.conflict? claim) ∧
      Queried verdict recognizer (classify (recognizer, instruction)).state.1 := by
  cases claims : instruction.claim with
  | error other =>
      rw [classify_apply_of_fault claims] at judged
      cases judged
  | ok claim =>
      rw [classify_apply_of_claim claims] at judged ⊢
      cases judged
      exact ⟨⟨claim, rfl, rfl⟩, recognizer.queried_countVerdict _⟩

/-! ### Bookings -/

/-- A booking ends with a fault exactly if its unit has issued. -/
theorem outcome_book_eq_error_iff :
    (book claim recognizer).outcome = .error fault ↔
      ∃ unit, claim.unit? = some unit ∧ recognizer.occupancy.active unit = true ∧
        fault = .bookedTwice unit := by
  by_cases issued : ∃ unit, claim.unit? = some unit ∧ recognizer.occupancy.active unit = true
  · obtain ⟨unit, claimed, active⟩ := issued
    rw [book_apply_of_error (Occupancy.book_eq_error claimed active)]
    constructor
    · rintro ⟨⟩
      exact ⟨unit, claimed, active, rfl⟩
    · rintro ⟨other, named, -, rfl⟩
      cases claimed.symm.trans named
      rfl
  · have idle : ∀ unit, claim.unit? = some unit → recognizer.occupancy.active unit = false :=
      fun unit claimed => Bool.eq_false_iff.mpr fun active => issued ⟨unit, claimed, active⟩
    rw [book_apply_of_ok (Occupancy.book_eq_ok_add idle)]
    constructor
    · rintro ⟨⟩
    · rintro ⟨unit, claimed, active, -⟩
      exact absurd ⟨unit, claimed, active⟩ issued

private theorem eq_of_book_error (fails : (book claim recognizer).outcome = .error fault) :
    (book claim recognizer).state = recognizer := by
  obtain ⟨unit, claimed, active, -⟩ := outcome_book_eq_error_iff.mp fails
  rw [book_apply_of_error (Occupancy.book_eq_error claimed active)]

/-- Booking a claim does no more than that. -/
theorem booked_of_book (made : (book claim recognizer).outcome = .ok ()) :
    Booked claim recognizer (book claim recognizer).state := by
  have idle : ∀ unit, claim.unit? = some unit → recognizer.occupancy.active unit = false := by
    intro unit claimed
    rw [Bool.eq_false_iff]
    intro active
    rw [outcome_book_eq_error_iff.mpr ⟨unit, claimed, active, rfl⟩] at made
    cases made
  rw [book_apply_of_ok (Occupancy.book_eq_ok_add idle)]
  exact {
    unit := fun unit claimed => ⟨idle unit claimed, by simp [Occupancy.add, claimed]⟩
    otherUnits := fun unit apart => by simp [Occupancy.add, apart]
    path := fun path claimed => by simp [Occupancy.add, claimed]
    otherPaths := fun path apart => by simp [Occupancy.add, apart]
    move := fun side moves => by simp [Occupancy.add, moves]
    otherMoves := fun side apart => by simp [Occupancy.add, apart]
    counted := recognizer.stats.ticks_countClaim claim }

/-- A candidate that cannot be emitted leaves the recognizer alone. -/
theorem eq_of_emit_error (fails : (emit (recognizer, instruction)).outcome = .error fault) :
    (emit (recognizer, instruction)).state.1 = recognizer := by
  cases claims : instruction.claim with
  | error other => rw [emit_apply_of_fault claims]
  | ok claim =>
      rw [emit_apply_of_claim recognizer claims] at fails ⊢
      exact eq_of_book_error (Traced.outcome_map_eq_error_iff.mp fails)

/-- Emitting a candidate does no more than book its claim. -/
theorem booked_of_emit (made : (emit (recognizer, instruction)).outcome = .ok claim) :
    instruction.claim = .ok claim ∧
      Booked claim recognizer (emit (recognizer, instruction)).state.1 := by
  cases claims : instruction.claim with
  | error other =>
      rw [emit_apply_of_fault claims] at made
      cases made
  | ok other =>
      rw [emit_apply_of_claim recognizer claims] at made ⊢
      obtain ⟨⟨⟩, booked, rfl⟩ := Traced.outcome_map_eq_ok_iff.mp made
      exact ⟨rfl, booked_of_book booked⟩

/-- **Queries book nothing, and failures book nothing by half.** In every state of a
recognizer, checking a claim and classifying a candidate leave the occupancy as it is. They
count nothing unless a conflict is found, and then they count that conflict, once and under its
cause. A booking or an emission that ends with a fault leaves the recognizer as it was; one
that is made changes what the claim names and the counter of its kind. -/
theorem operations_confined (recognizer : Recognizer) (instruction : Instruction)
    (claim : Claim) :
    let checked := check claim recognizer
    let classified := classify (recognizer, instruction)
    let booked := book claim recognizer
    let emitted := emit (recognizer, instruction)
    (checked.outcome = .ok (recognizer.occupancy.conflict? claim) ∧
        Queried (recognizer.occupancy.conflict? claim) recognizer checked.state) ∧
      ((∀ fault, classified.outcome = .error fault → classified.state.1 = recognizer) ∧
        ∀ verdict, classified.outcome = .ok verdict →
          (∃ claim, instruction.claim = .ok claim ∧
              verdict = recognizer.occupancy.conflict? claim) ∧
            Queried verdict recognizer classified.state.1) ∧
      ((∀ fault, booked.outcome = .error fault ↔
          ∃ unit, claim.unit? = some unit ∧ recognizer.occupancy.active unit = true ∧
            fault = .bookedTwice unit) ∧
        (∀ fault, booked.outcome = .error fault → booked.state = recognizer) ∧
        (booked.outcome = .ok () → Booked claim recognizer booked.state)) ∧
      (∀ fault, emitted.outcome = .error fault → emitted.state.1 = recognizer) ∧
        ∀ claim, emitted.outcome = .ok claim →
          instruction.claim = .ok claim ∧ Booked claim recognizer emitted.state.1 := by
  refine ⟨⟨?_, recognizer.queried_check claim⟩,
    ⟨fun _ => eq_of_classify_error, fun _ => queried_of_classify⟩,
    ⟨fun _ => outcome_book_eq_error_iff, fun _ => eq_of_book_error, booked_of_book⟩,
    fun _ => eq_of_emit_error, fun _ => booked_of_emit⟩
  rw [check_apply]

/-- A recognizer in whose cycle unit L1 has issued an addition that reads across. -/
def engaged : Recognizer where
  occupancy := Occupancy.empty.add (.unit ⟨.l, .a⟩ (some .x1))
  stats := { instructions := 1 }

/-- A busy unit is a hazard to a query and a fault to a booking, and a copy on the other side is
booked. -/
theorem operations_confined_engaged :
    (classify (engaged, .addition .a)).outcome = .ok (some (.unitBusy ⟨.l, .a⟩)) ∧
      (classify (engaged, .addition .a)).state.1.stats.get .unitHazards = 1 ∧
      (emit (engaged, .addition .a)).outcome = .error (.bookedTwice ⟨.l, .a⟩) ∧
      (emit (engaged, .addition .a)).state.1 = engaged ∧
      (emit (engaged, .copy .b)).outcome = .ok (.move .b none) ∧
      (emit (engaged, .copy .b)).state.1.occupancy.moves .b = 1 ∧
      (emit (engaged, .copy .b)).state.1.stats.get .instructions = 1 := by
  obtain ⟨-, ⟨-, judged⟩, -, refused, -⟩ :=
    operations_confined engaged (.addition .a) (.unit ⟨.l, .a⟩ none)
  obtain ⟨-, -, -, -, made⟩ := operations_confined engaged (.copy .b) .pseudo
  obtain ⟨-, moved⟩ := made (.move .b none) rfl
  refine ⟨rfl, ?_, rfl, refused _ rfl, rfl, moved.move .b rfl, ?_⟩
  · exact (judged _ rfl).2.counted _ rfl .unitHazards
  · exact moved.counted .instructions

end Recognizer

end VliwPack
