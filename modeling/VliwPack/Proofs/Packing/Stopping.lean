import VliwPack.Proofs.Packing.Step
import VliwPack.Proofs.Resolution.Faults

/-! # Where packing stops

Packing stops at the first instruction that does not resolve and nowhere else, whatever
the issue width and whatever was packed before (`Recognizer.pack_stops`). Instructions
that resolve lead to a state from which any continuation is packed, and what they
announce is the same for all continuations (`Packing.exists_run_append`). So a fault
announces nothing, and more instructions only add calls.
-/

namespace VliwPack

open Instruction

variable {width : Nat} {region before : List Instruction} {instruction culprit : Instruction}
  {fault : Fault}

/-- The culprit is the first instruction of the region that does not resolve, the others
stand before it, and the fault is the one its resolving ends with. -/
structure StopsAt (region before : List Instruction) (culprit : Instruction) (fault : Fault) :
    Prop where
  among : before ++ [culprit] <+: region
  resolves : ∀ instruction ∈ before, instruction.Resolves
  real : culprit.descriptor.isPseudo = false
  fails : culprit.claim = .error fault

/-- A region in which not every instruction resolves has a first one that does not. -/
theorem exists_stopsAt (stuck : ¬ ∀ instruction ∈ region, instruction.Resolves) :
    ∃ before culprit fault, StopsAt region before culprit fault := by
  induction region with
  | nil => exact absurd (fun _ member => nomatch member) stuck
  | cons instruction rest ih =>
      by_cases resolves : instruction.Resolves
      · have later : ¬ ∀ other ∈ rest, other.Resolves := fun all =>
          stuck (List.forall_mem_cons.mpr ⟨resolves, all⟩)
        obtain ⟨before, culprit, fault, stops⟩ := ih later
        refine ⟨instruction :: before, culprit, fault, ?_, ?_, stops.real, stops.fails⟩
        · exact (List.prefix_cons_inj instruction).mpr stops.among
        · exact List.forall_mem_cons.mpr ⟨resolves, stops.resolves⟩
      · obtain ⟨fault, fails⟩ := exists_fault_of_not_resolves resolves
        have real := isPseudo_eq_false_of_fault fails
        exact ⟨[], instruction, fault, ⟨rest, rfl⟩, by simp, real, fails⟩

private theorem PackResult.after_after (first second : List BundleCall) (early late : List Event)
    (result : PackResult) :
    (result.after second late).after first early =
      result.after (first ++ second) (early ++ late) := by
  simp only [after, List.append_assoc]

namespace Packing

/-- Instructions that resolve are all placed, and what they announce does not depend on
what follows them. -/
theorem exists_run_append (packing : Packing) (width : Nat)
    (resolves : ∀ instruction ∈ before, instruction.Resolves) :
    ∃ calls events next, ∀ rest,
      run width packing (before ++ rest) = (run width next rest).after calls events := by
  induction before generalizing packing with
  | nil => exact ⟨[], [], packing, fun _ => rfl⟩
  | cons instruction later ih =>
      obtain ⟨here, there⟩ := List.forall_mem_cons.mp resolves
      obtain ⟨calls, events, next, placed, -⟩ := place_of_resolves packing width here
      obtain ⟨more, reported, last, continued⟩ := ih next there
      refine ⟨calls ++ more, events ++ reported, last, fun rest => ?_⟩
      rw [List.cons_append, run, placed]
      simp only [continued, PackResult.after_after]

end Packing

namespace Recognizer

variable {recognizer : Recognizer}

/-- A region in which every instruction resolves is packed to its end, and packing goes
on from there if more instructions follow. -/
theorem pack_of_forall_resolves (recognizer : Recognizer) (width : Nat)
    (resolves : ∀ instruction ∈ region, instruction.Resolves) :
    (∃ cycles, (recognizer.pack width region).outcome = .ok cycles) ∧
      ∀ extension,
        (recognizer.pack width region).calls <+:
          (recognizer.pack width (region ++ extension)).calls := by
  obtain ⟨calls, events, next, continued⟩ :=
    Packing.exists_run_append { recognizer := recognizer.reset } width resolves
  have whole := continued []
  rw [List.append_nil] at whole
  constructor
  · rw [pack, whole]
    exact ⟨_, rfl⟩
  · intro extension
    rw [pack, pack, whole, continued extension]
    simp [PackResult.after, Packing.run]

/-- Where a region has an instruction that does not resolve, packing ends with its fault,
and only what stands before it is announced. -/
theorem pack_of_stopsAt (recognizer : Recognizer) (width : Nat)
    (stops : StopsAt region before culprit fault) :
    (recognizer.pack width region).outcome = .error fault ∧
      (recognizer.pack width region).calls = (recognizer.pack width before).calls := by
  obtain ⟨rest, rfl⟩ := stops.among
  obtain ⟨calls, events, next, continued⟩ :=
    Packing.exists_run_append { recognizer := recognizer.reset } width stops.resolves
  obtain ⟨outcome, silent⟩ := Packing.run_of_fault next width stops.fails rest
  have alone := continued []
  rw [List.append_nil] at alone
  rw [List.append_assoc, List.singleton_append, pack, pack, alone, continued (culprit :: rest)]
  refine ⟨outcome, ?_⟩
  rw [PackResult.after, PackResult.after, silent]
  rfl

/-- Where packing ends with a number of cycles, every instruction resolves. -/
theorem resolves_of_pack {cycles : Nat}
    (packs : (recognizer.pack width region).outcome = .ok cycles) :
    ∀ instruction ∈ region, instruction.Resolves := by
  by_cases all : ∀ instruction ∈ region, instruction.Resolves
  · exact all
  · obtain ⟨before, culprit, fault, stops⟩ := exists_stopsAt all
    rw [(recognizer.pack_of_stopsAt width stops).1] at packs
    cases packs

/-- Packing ends with a fault exactly if it stops at an instruction with that fault. -/
theorem pack_outcome_eq_error_iff (recognizer : Recognizer) (width : Nat) :
    (recognizer.pack width region).outcome = .error fault ↔
      ∃ before culprit, StopsAt region before culprit fault := by
  constructor
  · intro fails
    by_cases all : ∀ instruction ∈ region, instruction.Resolves
    · obtain ⟨⟨cycles, packs⟩, -⟩ := recognizer.pack_of_forall_resolves width all
      rw [packs] at fails
      cases fails
    · obtain ⟨before, culprit, other, stops⟩ := exists_stopsAt all
      have outcome := (recognizer.pack_of_stopsAt width stops).1
      rw [outcome] at fails
      cases fails
      exact ⟨before, culprit, stops⟩
  · rintro ⟨before, culprit, stops⟩
    exact (recognizer.pack_of_stopsAt width stops).1

/-- What has been announced for a region stays announced if more instructions follow. -/
theorem pack_calls_prefix (recognizer : Recognizer) (width : Nat)
    (region extension : List Instruction) :
    (recognizer.pack width region).calls <+:
      (recognizer.pack width (region ++ extension)).calls := by
  by_cases all : ∀ instruction ∈ region, instruction.Resolves
  · exact (recognizer.pack_of_forall_resolves width all).2 extension
  · obtain ⟨before, culprit, fault, stops⟩ := exists_stopsAt all
    have longer : StopsAt (region ++ extension) before culprit fault :=
      { stops with among := stops.among.trans (List.prefix_append region extension) }
    obtain ⟨-, short⟩ := recognizer.pack_of_stopsAt width stops
    obtain ⟨-, long⟩ := recognizer.pack_of_stopsAt width longer
    exact short.trans long.symm ▸ List.prefix_rfl

/-! ### After the first classification -/

variable {candidate : WithCandidate} {verdict : Option Conflict}

/-- A candidate that has been classified resolves, and so does what classifying leaves. -/
theorem exists_claim_of_classify (first : (classify candidate).outcome = .ok verdict) :
    ∃ claim, candidate.2.claim = .ok claim ∧
      classify candidate =
        ⟨⟨.ok (candidate.1.occupancy.conflict? claim), (classify candidate).events⟩,
          (candidate.1.countVerdict (candidate.1.occupancy.conflict? claim),
            candidate.2.resolved)⟩ := by
  obtain ⟨recognizer, instruction⟩ := candidate
  cases claims : instruction.claim with
  | error fault =>
      rw [classify_apply_of_fault claims] at first
      cases first
  | ok claim =>
      refine ⟨claim, rfl, ?_⟩
      rw [classify_apply_of_claim claims]

/-- A candidate that has been found to fit is emitted. -/
theorem emit_of_classify_fits (fits : (classify candidate).outcome = .ok none) :
    ∃ claim, (emit (classify candidate).state).outcome = .ok claim := by
  obtain ⟨claim, claims, classified⟩ := exists_claim_of_classify fits
  rw [classified] at fits
  have free : candidate.1.occupancy.conflict? claim = none := Except.ok.inj fits
  have again : candidate.2.resolved.claim = .ok claim := by rw [claim_resolved, claims]
  rw [classified, free, countVerdict_none,
    emit_apply_of_ok again (Occupancy.book_of_conflict?_eq_none free)]
  exact ⟨claim, rfl⟩

/-- In a new cycle a candidate that has been classified is found to fit. -/
theorem classify_of_classify (first : (classify candidate).outcome = .ok verdict) :
    (classify (aside advance (classify candidate).state).state).outcome = .ok none := by
  obtain ⟨claim, claims, classified⟩ := exists_claim_of_classify first
  have again : candidate.2.resolved.claim = .ok claim := by rw [claim_resolved, claims]
  rw [classified, aside, advance_apply, classify_apply_of_claim again, Occupancy.conflict?_empty]

/-! ### What stops packing -/

/-- Packing ends with a fault exactly if some instruction that takes a slot does not
resolve. The fault is that of the first such instruction, and what has been announced by
then is what packing the instructions before it announces. No instruction is ever found
not to fit an empty cycle: once the first classification of a candidate has given a
verdict, the candidate is emitted if it fits, and is found to fit and emitted in a new
cycle. What has been announced for a region stays announced if more instructions follow. -/
theorem pack_stops (recognizer : Recognizer) (width : Nat) (region : List Instruction) :
    ((∃ fault, (recognizer.pack width region).outcome = .error fault) ↔
        ∃ instruction ∈ region,
          instruction.descriptor.isPseudo = false ∧ ¬ instruction.Resolves) ∧
      (∀ fault, (recognizer.pack width region).outcome = .error fault ↔
        ∃ before culprit, StopsAt region before culprit fault) ∧
      (∀ before culprit fault, StopsAt region before culprit fault →
        (recognizer.pack width region).calls = (recognizer.pack width before).calls) ∧
      (∀ mnemonic, (recognizer.pack width region).outcome ≠ .error (.unschedulable mnemonic)) ∧
      (∀ (candidate : WithCandidate) (verdict : Option Conflict),
        (classify candidate).outcome = .ok verdict →
          (verdict = none → ∃ claim, (emit (classify candidate).state).outcome = .ok claim) ∧
            let retried := (aside advance (classify candidate).state).state
            (classify retried).outcome = .ok none ∧
              ∃ claim, (emit (classify retried).state).outcome = .ok claim) ∧
      ∀ extension, (recognizer.pack width region).calls <+:
        (recognizer.pack width (region ++ extension)).calls := by
  refine ⟨?_, fun _ => recognizer.pack_outcome_eq_error_iff width, ?_, ?_, ?_,
    recognizer.pack_calls_prefix width region⟩
  · constructor
    · rintro ⟨fault, fails⟩
      obtain ⟨before, culprit, stops⟩ := (recognizer.pack_outcome_eq_error_iff width).mp fails
      refine ⟨culprit, ?_, stops.real, not_resolves_of_fault stops.fails⟩
      exact stops.among.subset (List.mem_append_right before (List.mem_singleton_self culprit))
    · rintro ⟨instruction, member, -, stuck⟩
      obtain ⟨before, culprit, fault, stops⟩ := exists_stopsAt fun all =>
        stuck (all instruction member)
      exact ⟨fault, (recognizer.pack_of_stopsAt width stops).1⟩
  · intro before culprit fault stops
    exact (recognizer.pack_of_stopsAt width stops).2
  · intro mnemonic fails
    obtain ⟨before, culprit, stops⟩ := (recognizer.pack_outcome_eq_error_iff width).mp fails
    have malformation := isMalformation_of_claim stops.fails
    cases malformation
  · intro candidate verdict first
    have second := classify_of_classify first
    refine ⟨?_, second, emit_of_classify_fits second⟩
    rintro rfl
    exact emit_of_classify_fits first

/-- A region of two additions on one unit and a move without operands between them. -/
def brokenMove : List Instruction :=
  [.addition .a, { descriptor := { name := "mv", isMove := true } }, .addition .a]

/-- The first addition is announced, the move is the culprit, and the last addition is never
reached. -/
theorem pack_stops_brokenMove :
    (Recognizer.pack {} 0 brokenMove).outcome = .error (.malformedMove "mv") ∧
      (Recognizer.pack {} 0 brokenMove).calls = [.begin 1, .push (.addition .a)] ∧
      ∃ before culprit, StopsAt brokenMove before culprit (.malformedMove "mv") :=
  ⟨rfl, rfl, ((pack_stops {} 0 brokenMove).2.1 _).mp rfl⟩

end Recognizer

end VliwPack
