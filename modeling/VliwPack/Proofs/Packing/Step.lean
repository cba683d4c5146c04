import VliwPack.Packer
import VliwPack.Proofs.Cycle.Booking
import VliwPack.Proofs.Recognizer.Operations

/-! # What placing one instruction does

Placing an instruction goes in one of five ways, and one equation for each gives its
whole trail: a pseudo instruction joins the current cycle; any other joins it too, or
begins the next cycle because of a conflict or because no slot is left; and an
instruction that does not resolve stops packing, in the current cycle or in the next.
Since every claim fits an empty cycle, an instruction never moves on twice.
`Packing.placement` is the case analysis over these ways.
-/

namespace VliwPack

/-- The instruction that a call pushes. -/
def BundleCall.pushed? : BundleCall → Option Instruction
  | begin _ => none
  | push instruction => some instruction

namespace Packing

variable {packing : Packing} {width : Nat} {instruction : Instruction} {claim : Claim}
  {fault : Fault}

/-- The calls that announce an instruction in the current cycle. -/
def announcement (cursor : Cursor) (instruction : Instruction) : List BundleCall :=
  if cursor.isOpen then [.push instruction] else [.begin cursor.cycle, .push instruction]

/-- An announcement pushes its instruction, whether it begins a bundle or not. -/
theorem pushed_announcement (cursor : Cursor) (instruction : Instruction) :
    (announcement cursor instruction).filterMap BundleCall.pushed? = [instruction] := by
  unfold announcement
  split <;> rfl

/-- The bundle of the current cycle has been begun. -/
def opened (packing : Packing) : Packing :=
  if packing.cursor.isOpen then packing
  else ⟨packing.recognizer.countBundle, { packing.cursor with isOpen := true }⟩

/-- A claim has been booked. -/
def booked (packing : Packing) (claim : Claim) : Packing :=
  { packing with
    recognizer :=
      ⟨packing.recognizer.occupancy.add claim, packing.recognizer.stats.countClaim claim⟩ }

/-- An instruction with the claim has been issued in the current cycle. -/
def joined (packing : Packing) (claim : Claim) : Packing :=
  let opened := (packing.booked claim).opened
  { opened with cursor := { opened.cursor with issued := opened.cursor.issued + 1 } }

/-- A conflict has been counted. -/
def counted (packing : Packing) (conflict : Conflict) : Packing :=
  { packing with recognizer := packing.recognizer.countVerdict (some conflict) }

/-- The next cycle has been begun. -/
def advanced (packing : Packing) : Packing :=
  ⟨⟨.empty, { packing.recognizer.stats with cycles := packing.recognizer.stats.cycles + 1 }⟩,
    { cycle := packing.cursor.cycle + 1 }⟩

/-! ### What the parts of the state become -/

/-- Opening a bundle keeps the occupancy. -/
@[simp] theorem occupancy_opened (packing : Packing) :
    packing.opened.recognizer.occupancy = packing.recognizer.occupancy := by
  unfold opened
  split <;> rfl

/-- Opening a bundle keeps the cycle. -/
@[simp] theorem cycle_opened (packing : Packing) :
    packing.opened.cursor.cycle = packing.cursor.cycle := by
  unfold opened
  split <;> rfl

/-- Opening a bundle issues nothing. -/
@[simp] theorem issued_opened (packing : Packing) :
    packing.opened.cursor.issued = packing.cursor.issued := by
  unfold opened
  split <;> rfl

/-- The bundle is open then. -/
@[simp] theorem isOpen_opened (packing : Packing) : packing.opened.cursor.isOpen = true := by
  unfold opened
  split
  next isOpen => exact isOpen
  next => rfl

/-- A booking adds its claim. -/
@[simp] theorem occupancy_booked (packing : Packing) (claim : Claim) :
    (packing.booked claim).recognizer.occupancy = packing.recognizer.occupancy.add claim := rfl

/-- A booking keeps the cursor. -/
@[simp] theorem cursor_booked (packing : Packing) (claim : Claim) :
    (packing.booked claim).cursor = packing.cursor := rfl

/-- What joins adds its claim. -/
@[simp] theorem occupancy_joined (packing : Packing) (claim : Claim) :
    (packing.joined claim).recognizer.occupancy = packing.recognizer.occupancy.add claim :=
  occupancy_opened (packing.booked claim)

/-- What joins keeps the cycle. -/
@[simp] theorem cycle_joined (packing : Packing) (claim : Claim) :
    (packing.joined claim).cursor.cycle = packing.cursor.cycle :=
  cycle_opened (packing.booked claim)

/-- What joins takes an issue slot. -/
@[simp] theorem issued_joined (packing : Packing) (claim : Claim) :
    (packing.joined claim).cursor.issued = packing.cursor.issued + 1 :=
  congrArg (· + 1) (issued_opened (packing.booked claim))

/-- What joins has the bundle open. -/
@[simp] theorem isOpen_joined (packing : Packing) (claim : Claim) :
    (packing.joined claim).cursor.isOpen = true :=
  isOpen_opened (packing.booked claim)

/-- Counting a conflict keeps the cursor. -/
@[simp] theorem cursor_counted (packing : Packing) (conflict : Conflict) :
    (packing.counted conflict).cursor = packing.cursor := rfl

/-- A new cycle is empty. -/
@[simp] theorem occupancy_advanced (packing : Packing) :
    packing.advanced.recognizer.occupancy = .empty := rfl

/-- A new cycle is the next one. -/
@[simp] theorem cycle_advanced (packing : Packing) :
    packing.advanced.cursor.cycle = packing.cursor.cycle + 1 := rfl

/-! ### What is reported -/

/-- What checking an instruction's claim reports. -/
def checkEvents (instruction : Instruction) (claim : Claim) (verdict : Option Conflict) :
    List Event :=
  (Instruction.resolve instruction).events ++
    [.classified instruction.name claim, .checked verdict]

/-- What issuing an instruction reports. -/
def issueEvents (instruction : Instruction) (claim : Claim) (cycle : Nat) : List Event :=
  (Instruction.resolve instruction).events ++
    [.booked claim, .placed instruction.name claim cycle]

/-! ### The parts of placing -/

private theorem announce_apply (packing : Packing) (instruction : Instruction) :
    announce instruction packing =
      ⟨⟨.ok (announcement packing.cursor instruction), []⟩, packing.opened⟩ := by
  cases isOpen : packing.cursor.isOpen <;>
    simp [announce, Routine.bind_apply, announcement, opened, isOpen]

private theorem nextCycle_apply (packing : Packing) :
    nextCycle packing = ⟨⟨.ok (), [.advanced]⟩, packing.advanced⟩ := by
  simp [nextCycle, Recognizer.advance_apply, advanced]

private theorem handle_classify_of_claim (claims : instruction.claim = .ok claim) :
    handle Recognizer.classify instruction packing =
      ⟨⟨.ok (instruction.resolved, packing.recognizer.occupancy.conflict? claim),
          checkEvents instruction claim (packing.recognizer.occupancy.conflict? claim)⟩,
        { packing with
          recognizer := packing.recognizer.countVerdict
            (packing.recognizer.occupancy.conflict? claim) }⟩ := by
  simp [handle, Recognizer.classify_apply_of_claim claims, checkEvents, Except.map]

private theorem handle_classify_of_fault (fails : instruction.claim = .error fault) :
    handle Recognizer.classify instruction packing =
      ⟨⟨.error fault, (Instruction.resolve instruction).events⟩, packing⟩ := by
  simp [handle, Recognizer.classify_apply_of_fault fails, Except.map]

private theorem handle_emit_of_fits (claims : instruction.claim = .ok claim)
    (fits : packing.recognizer.occupancy.conflict? claim = none) :
    handle Recognizer.emit instruction packing =
      ⟨⟨.ok (instruction.resolved, claim),
          (Instruction.resolve instruction).events ++ [.booked claim]⟩,
        packing.booked claim⟩ := by
  simp [handle, booked, Except.map,
    Recognizer.emit_apply_of_ok claims (Occupancy.book_of_conflict?_eq_none fits)]

/-- An instruction that fits stays in the current cycle. -/
theorem findCycle_of_fits (claims : instruction.claim = .ok claim)
    (fits : packing.recognizer.occupancy.conflict? claim = none) :
    findCycle instruction packing =
      ⟨⟨.ok instruction.resolved, checkEvents instruction claim none⟩, packing⟩ := by
  simp [findCycle, Routine.bind_apply, handle_classify_of_claim claims, fits,
    Recognizer.countVerdict_none]

/-- An instruction with a conflict moves on, and there it fits. -/
theorem findCycle_of_conflict {conflict : Conflict} (claims : instruction.claim = .ok claim)
    (found : packing.recognizer.occupancy.conflict? claim = some conflict) :
    findCycle instruction packing =
      ⟨⟨.ok instruction.resolved,
          checkEvents instruction claim (some conflict) ++ .advanced ::
            checkEvents instruction.resolved claim none⟩,
        (packing.counted conflict).advanced⟩ := by
  have again : instruction.resolved.claim = .ok claim := by rw [Instruction.claim_resolved, claims]
  simp [findCycle, Routine.bind_apply, handle_classify_of_claim claims, found, nextCycle_apply,
    handle_classify_of_claim again, Recognizer.countVerdict_none, counted]

private theorem findCycle_of_fault (fails : instruction.claim = .error fault) :
    findCycle instruction packing =
      ⟨⟨.error fault, (Instruction.resolve instruction).events⟩, packing⟩ := by
  simp [findCycle, Routine.bind_apply, handle_classify_of_fault fails]

/-- Issuing an instruction, once there is a slot for it. -/
def settle (instruction : Instruction) : Routine Packing (List BundleCall) := do
  let instruction ← findCycle instruction
  let (instruction, claim) ← handle Recognizer.emit instruction
  Traced.report (.placed instruction.name claim (← get).cursor.cycle)
  let calls ← announce instruction
  modify fun packing =>
    { packing with cursor := { packing.cursor with issued := packing.cursor.issued + 1 } }
  return calls

private theorem issue_of_room (room : packing.cursor.issued < width) :
    issue width instruction packing = settle instruction packing := by
  have room : ¬ width ≤ packing.cursor.issued := Nat.not_le.mpr room
  simp [issue, settle, Routine.bind_apply, room]

/-- Without a slot left in the current cycle the next one is begun first. -/
theorem issue_of_full (full : width ≤ packing.cursor.issued) :
    issue width instruction packing =
      (settle instruction packing.advanced).after [.widthReached width, .advanced] := by
  simp [issue, settle, Routine.bind_apply, full, nextCycle_apply]

private theorem settle_of_fits (claims : instruction.claim = .ok claim)
    (fits : packing.recognizer.occupancy.conflict? claim = none) :
    settle instruction packing =
      ⟨⟨.ok (announcement packing.cursor instruction.resolved),
          checkEvents instruction claim none ++
            issueEvents instruction.resolved claim packing.cursor.cycle⟩,
        packing.joined claim⟩ := by
  have again : instruction.resolved.claim = .ok claim := by rw [Instruction.claim_resolved, claims]
  simp [settle, Routine.bind_apply, findCycle_of_fits claims fits, handle_emit_of_fits again fits,
    announce_apply, issueEvents, joined]

/-- What has a conflict is issued in the next cycle. -/
theorem settle_of_conflict {conflict : Conflict} (claims : instruction.claim = .ok claim)
    (found : packing.recognizer.occupancy.conflict? claim = some conflict) :
    settle instruction packing =
      ⟨⟨.ok (announcement (packing.counted conflict).advanced.cursor instruction.resolved),
          checkEvents instruction claim (some conflict) ++ .advanced ::
            (checkEvents instruction.resolved claim none ++
              issueEvents instruction.resolved claim (packing.cursor.cycle + 1))⟩,
        (packing.counted conflict).advanced.joined claim⟩ := by
  have again : instruction.resolved.claim = .ok claim := by rw [Instruction.claim_resolved, claims]
  have fits : (packing.counted conflict).advanced.recognizer.occupancy.conflict? claim = none :=
    Occupancy.conflict?_empty claim
  simp [settle, Routine.bind_apply, findCycle_of_conflict claims found,
    handle_emit_of_fits again fits, announce_apply, issueEvents, joined]

private theorem settle_of_fault (fails : instruction.claim = .error fault) :
    settle instruction packing =
      ⟨⟨.error fault, (Instruction.resolve instruction).events⟩, packing⟩ := by
  simp [settle, Routine.bind_apply, findCycle_of_fault fails]

/-! ### The ways placing can go -/

/-- A pseudo instruction joins the current cycle as it is. -/
theorem place_of_pseudo (pseudo : instruction.descriptor.isPseudo = true) :
    place width instruction packing =
      ⟨⟨.ok (announcement packing.cursor instruction),
          [.booked .pseudo, .pseudoPlaced instruction.name .pseudo]⟩,
        (packing.booked .pseudo).opened⟩ := by
  have silent := Instruction.resolve_of_isPseudo pseudo
  have fits : packing.recognizer.occupancy.conflict? .pseudo = none := rfl
  simp [place, placePseudo, pseudo, Routine.bind_apply,
    handle_emit_of_fits (Instruction.claim_of_isPseudo pseudo) fits, silent,
    announce_apply, Instruction.resolved_of_isPseudo pseudo]

/-- An instruction for which there is a slot and which fits joins the current cycle. -/
theorem place_of_fits (real : instruction.descriptor.isPseudo = false)
    (room : packing.cursor.issued < width) (claims : instruction.claim = .ok claim)
    (fits : packing.recognizer.occupancy.conflict? claim = none) :
    place width instruction packing =
      ⟨⟨.ok (announcement packing.cursor instruction.resolved),
          checkEvents instruction claim none ++
            issueEvents instruction.resolved claim packing.cursor.cycle⟩,
        packing.joined claim⟩ := by
  rw [place, real, if_neg Bool.false_ne_true, issue_of_room room, settle_of_fits claims fits]

/-- An instruction with a conflict begins the next cycle. -/
theorem place_of_conflict {conflict : Conflict} (real : instruction.descriptor.isPseudo = false)
    (room : packing.cursor.issued < width) (claims : instruction.claim = .ok claim)
    (found : packing.recognizer.occupancy.conflict? claim = some conflict) :
    place width instruction packing =
      ⟨⟨.ok [.begin (packing.cursor.cycle + 1), .push instruction.resolved],
          checkEvents instruction claim (some conflict) ++ .advanced ::
            (checkEvents instruction.resolved claim none ++
              issueEvents instruction.resolved claim (packing.cursor.cycle + 1))⟩,
        (packing.counted conflict).advanced.joined claim⟩ := by
  rw [place, real, if_neg Bool.false_ne_true, issue_of_room room,
    settle_of_conflict claims found]
  rfl

/-- An instruction for which no slot is left begins the next cycle, where it fits. -/
theorem place_of_full (real : instruction.descriptor.isPseudo = false)
    (full : width ≤ packing.cursor.issued) (claims : instruction.claim = .ok claim) :
    place width instruction packing =
      ⟨⟨.ok [.begin (packing.cursor.cycle + 1), .push instruction.resolved],
          .widthReached width :: .advanced :: (checkEvents instruction claim none ++
            issueEvents instruction.resolved claim (packing.cursor.cycle + 1))⟩,
        packing.advanced.joined claim⟩ := by
  have fits : packing.advanced.recognizer.occupancy.conflict? claim = none :=
    Occupancy.conflict?_empty claim
  rw [place, real, if_neg Bool.false_ne_true, issue_of_full full, settle_of_fits claims fits]
  rfl

/-- An instruction that resolves is placed and pushed as resolving leaves it, whatever the
cycle holds and however wide it is. -/
theorem place_of_resolves (packing : Packing) (width : Nat) (resolves : instruction.Resolves) :
    ∃ calls events next, place width instruction packing = ⟨⟨.ok calls, events⟩, next⟩ ∧
      calls.filterMap BundleCall.pushed? = [instruction.resolved] := by
  obtain ⟨claim, claims⟩ := resolves
  have pushed := pushed_announcement packing.cursor instruction.resolved
  cases real : instruction.descriptor.isPseudo with
  | true =>
      rw [Instruction.resolved_of_isPseudo real] at pushed ⊢
      exact ⟨_, _, _, place_of_pseudo real, pushed⟩
  | false =>
      rcases Nat.lt_or_ge packing.cursor.issued width with room | full
      · cases found : packing.recognizer.occupancy.conflict? claim with
        | none => exact ⟨_, _, _, place_of_fits real room claims found, pushed⟩
        | some conflict => exact ⟨_, _, _, place_of_conflict real room claims found, rfl⟩
      · exact ⟨_, _, _, place_of_full real full claims, rfl⟩

/-- An instruction that does not resolve stops packing in the current cycle. -/
theorem place_of_fault_of_room (fails : instruction.claim = .error fault)
    (room : packing.cursor.issued < width) :
    place width instruction packing =
      ⟨⟨.error fault, (Instruction.resolve instruction).events⟩, packing⟩ := by
  rw [place, Instruction.isPseudo_eq_false_of_fault fails, if_neg Bool.false_ne_true,
    issue_of_room room, settle_of_fault fails]

/-- Without a slot left it stops packing after the next cycle has been begun. -/
theorem place_of_fault_of_full (fails : instruction.claim = .error fault)
    (full : width ≤ packing.cursor.issued) :
    place width instruction packing =
      ⟨⟨.error fault,
          .widthReached width :: .advanced :: (Instruction.resolve instruction).events⟩,
        packing.advanced⟩ := by
  rw [place, Instruction.isPseudo_eq_false_of_fault fails, if_neg Bool.false_ne_true,
    issue_of_full full, settle_of_fault fails]
  rfl

/-- What has a fault is not placed, wherever the packing stands. -/
theorem place_of_fault (packing : Packing) (width : Nat)
    (fails : instruction.claim = .error fault) :
    ∃ events last, place width instruction packing = ⟨⟨.error fault, events⟩, last⟩ := by
  rcases Nat.lt_or_ge packing.cursor.issued width with room | full
  · exact ⟨_, _, place_of_fault_of_room fails room⟩
  · exact ⟨_, _, place_of_fault_of_full fails full⟩

/-- It announces nothing, and neither does what follows it. -/
theorem run_of_fault (packing : Packing) (width : Nat) (fails : instruction.claim = .error fault)
    (rest : List Instruction) :
    (run width packing (instruction :: rest)).outcome = .error fault ∧
      (run width packing (instruction :: rest)).calls = [] := by
  obtain ⟨events, last, stopped⟩ := place_of_fault packing width fails
  rw [run, stopped]
  exact ⟨rfl, rfl⟩

/-! ### All ways together -/

/-- How placing an instruction goes, with the trail it leaves. -/
inductive Placement (width : Nat) (packing : Packing) (instruction : Instruction) :
    Trail Packing (List BundleCall) → Prop
  | passes (pseudo : instruction.descriptor.isPseudo = true) :
      Placement width packing instruction
        ⟨⟨.ok (announcement packing.cursor instruction),
            [.booked .pseudo, .pseudoPlaced instruction.name .pseudo]⟩,
          (packing.booked .pseudo).opened⟩
  | joins {claim : Claim} (real : instruction.descriptor.isPseudo = false)
      (room : packing.cursor.issued < width) (claims : instruction.claim = .ok claim)
      (fits : packing.recognizer.occupancy.conflict? claim = none) :
      Placement width packing instruction
        ⟨⟨.ok (announcement packing.cursor instruction.resolved),
            checkEvents instruction claim none ++
              issueEvents instruction.resolved claim packing.cursor.cycle⟩,
          packing.joined claim⟩
  | conflicts {claim : Claim} {conflict : Conflict}
      (real : instruction.descriptor.isPseudo = false)
      (room : packing.cursor.issued < width) (claims : instruction.claim = .ok claim)
      (found : packing.recognizer.occupancy.conflict? claim = some conflict) :
      Placement width packing instruction
        ⟨⟨.ok [.begin (packing.cursor.cycle + 1), .push instruction.resolved],
            checkEvents instruction claim (some conflict) ++ .advanced ::
              (checkEvents instruction.resolved claim none ++
                issueEvents instruction.resolved claim (packing.cursor.cycle + 1))⟩,
          (packing.counted conflict).advanced.joined claim⟩
  | overflows {claim : Claim} (real : instruction.descriptor.isPseudo = false)
      (full : width ≤ packing.cursor.issued) (claims : instruction.claim = .ok claim) :
      Placement width packing instruction
        ⟨⟨.ok [.begin (packing.cursor.cycle + 1), .push instruction.resolved],
            .widthReached width :: .advanced :: (checkEvents instruction claim none ++
              issueEvents instruction.resolved claim (packing.cursor.cycle + 1))⟩,
          packing.advanced.joined claim⟩
  | stops {fault : Fault} (fails : instruction.claim = .error fault)
      (room : packing.cursor.issued < width) :
      Placement width packing instruction
        ⟨⟨.error fault, (Instruction.resolve instruction).events⟩, packing⟩
  | overflowsAndStops {fault : Fault} (fails : instruction.claim = .error fault)
      (full : width ≤ packing.cursor.issued) :
      Placement width packing instruction
        ⟨⟨.error fault,
            .widthReached width :: .advanced :: (Instruction.resolve instruction).events⟩,
          packing.advanced⟩

/-- Placing an instruction goes in one of these ways. -/
theorem placement (width : Nat) (packing : Packing) (instruction : Instruction) :
    Placement width packing instruction (place width instruction packing) := by
  cases claims : instruction.claim with
  | error fault =>
      rcases Nat.lt_or_ge packing.cursor.issued width with room | full
      · rw [place_of_fault_of_room claims room]
        exact .stops claims room
      · rw [place_of_fault_of_full claims full]
        exact .overflowsAndStops claims full
  | ok claim =>
      cases real : instruction.descriptor.isPseudo with
      | true =>
          rw [place_of_pseudo real]
          exact .passes real
      | false =>
          rcases Nat.lt_or_ge packing.cursor.issued width with room | full
          · cases found : packing.recognizer.occupancy.conflict? claim with
            | none =>
                rw [place_of_fits real room claims found]
                exact .joins real room claims found
            | some conflict =>
                rw [place_of_conflict real room claims found]
                exact .conflicts real room claims found
          · rw [place_of_full real full claims]
            exact .overflows real full claims

section

variable {trail : Trail Packing (List BundleCall)} {calls : List BundleCall}

/-- After an instruction has been placed, its bundle has been begun. -/
theorem Placement.isOpen (placed : Placement width packing instruction trail)
    (ends : trail.outcome = .ok calls) : trail.state.cursor.isOpen = true := by
  cases placed with
  | passes | joins | conflicts | overflows => simp
  | stops | overflowsAndStops => cases ends

/-- It is pushed as resolving leaves it. -/
theorem Placement.pushed (placed : Placement width packing instruction trail)
    (ends : trail.outcome = .ok calls) :
    calls.filterMap BundleCall.pushed? = [instruction.resolved] := by
  cases placed with
  | passes pseudo =>
      cases ends
      rw [pushed_announcement, Instruction.resolved_of_isPseudo pseudo]
  | joins =>
      cases ends
      exact pushed_announcement _ _
  | conflicts | overflows =>
      cases ends
      rfl
  | stops | overflowsAndStops => cases ends

end

end Packing

end VliwPack
