import Mathlib.Data.Nat.Basic
import Mathlib.Order.Monotone.Defs
import VliwPack.Proofs.Cycle.Booking
import VliwPack.Proofs.Routine

/-! # Hazards persist until the cycle is over

Occupancies are ordered by what is taken in them, and a booking only adds to one
(`Occupancy.le_of_book`). The more is taken, the fewer moves a side has left
(`Occupancy.antitone_movesAvailable`), and a claim that fits where more is taken fits where
less is taken (`Occupancy.fits_of_le`). So a conflict lasts until the cycle is closed, though
its reason may become another, and that also where more has been booked than fits. A booking
on one side changes nothing that the other side's units and moves depend on
(`Occupancy.AlikeOn`).
-/

namespace VliwPack

/-- The side on which the claim takes a unit or a move. -/
def Claim.side? : Claim → Option Side
  | pseudo => none
  | unit claimed _ => some claimed.side
  | move side _ => some side

namespace Occupancy

open Claim

variable {occupancy earlier later next : Occupancy} {claim : Claim} {claims : List Claim}
  {path : Option CrossPath} {side : Side}

/-- Books claims in order. The first one that is refused is a fault. -/
def bookAll (occupancy : Occupancy) (claims : List Claim) : Except Fault Occupancy :=
  claims.foldlM book occupancy

/-- What each booking keeps, a run of bookings keeps. -/
theorem bookAll_invariant (holds : Occupancy → Prop) (start : holds occupancy)
    (step : ∀ claim ∈ claims, ∀ before after : Occupancy, holds before →
      before.book claim = .ok after → holds after)
    (booked : occupancy.bookAll claims = .ok later) : holds later := by
  induction claims generalizing occupancy with
  | nil =>
      cases booked
      exact start
  | cons claim rest ih =>
      rw [bookAll, List.foldlM_cons] at booked
      obtain ⟨next, first, remaining⟩ := exists_of_bind_ok booked
      obtain ⟨here, there⟩ := List.forall_mem_cons.mp step
      exact ih (here occupancy next start first) there remaining

/-! ### What is taken stays taken -/

/-- All that is taken in one occupancy is taken in another. -/
structure Within (earlier later : Occupancy) : Prop where
  active : ∀ unit, earlier.active unit = true → later.active unit = true
  taken : ∀ path, earlier.taken path = true → later.taken path = true
  moves : ∀ side, earlier.moves side ≤ later.moves side

instance : Preorder Occupancy where
  le := Within
  le_refl _ := ⟨fun _ => id, fun _ => id, fun _ => Nat.le_refl _⟩
  le_trans _ _ _ first second :=
    { active := fun unit busy => second.active unit (first.active unit busy)
      taken := fun path busy => second.taken path (first.taken path busy)
      moves := fun side => Nat.le_trans (first.moves side) (second.moves side) }

/-- One more claim frees nothing. -/
theorem le_add (occupancy : Occupancy) (claim : Claim) : occupancy ≤ occupancy.add claim where
  active unit busy := by simp [add, busy]
  taken path busy := by simp [add, busy]
  moves side := Nat.le_add_right _ _

/-- A booking frees nothing. -/
theorem le_of_book (booked : occupancy.book claim = .ok next) : occupancy ≤ next := by
  rw [eq_add_of_book booked]
  exact occupancy.le_add claim

/-- Bookings free nothing. -/
theorem le_of_bookAll (booked : occupancy.bookAll claims = .ok later) : occupancy ≤ later :=
  bookAll_invariant (occupancy ≤ ·) le_rfl
    (fun _ _ _ _ sofar once => sofar.trans (le_of_book once)) booked

private theorem activeSharing_le (grown : earlier ≤ later) (side : Side) :
    earlier.activeSharing side ≤ later.activeSharing side := by
  apply List.countP_mono_left
  intro kind _ draws
  rw [Bool.and_eq_true] at draws ⊢
  exact ⟨draws.1, grown.active _ draws.2⟩

/-- The more is booked, the fewer moves are left. -/
theorem antitone_movesAvailable (side : Side) :
    Antitone fun occupancy : Occupancy => occupancy.movesAvailable side := by
  intro earlier later grown
  have moves := grown.moves side
  have sharing := activeSharing_le grown side
  dsimp only [movesAvailable]
  omega

private theorem pathFits_of_le (grown : earlier ≤ later) (free : later.pathConflict? path = none) :
    earlier.pathConflict? path = none := by
  rw [pathConflict?_eq_none_iff] at free ⊢
  intro other named
  rw [Bool.eq_false_iff]
  intro busy
  have busyLater := grown.taken other busy
  rw [free other named] at busyLater
  cases busyLater

private theorem movesAvailable_ne_zero_of_le (grown : earlier ≤ later)
    (left : later.movesAvailable side ≠ 0) : earlier.movesAvailable side ≠ 0 := by
  have atLeast : later.movesAvailable side ≤ earlier.movesAvailable side :=
    antitone_movesAvailable side grown
  omega

/-- A claim that fits where more is taken fits where less is taken. -/
theorem fits_of_le (grown : earlier ≤ later) (fits : later.conflict? claim = none) :
    earlier.conflict? claim = none := by
  cases claim with
  | pseudo => rfl
  | unit claimed path =>
      rw [conflict?_unit_eq_none_iff] at fits ⊢
      obtain ⟨idle, left, free⟩ := fits
      refine ⟨?_, fun shares => movesAvailable_ne_zero_of_le grown (left shares),
        pathFits_of_le grown free⟩
      rw [Bool.eq_false_iff]
      intro busy
      rw [grown.active claimed busy] at idle
      cases idle
  | move side path =>
      rw [conflict?_move_eq_none_iff] at fits ⊢
      exact ⟨pathFits_of_le grown fits.1, movesAvailable_ne_zero_of_le grown fits.2⟩

/-- A claim that has a conflict keeps having one as more is taken. -/
theorem isSome_conflict?_of_le (grown : earlier ≤ later)
    (found : (earlier.conflict? claim).isSome = true) :
    (later.conflict? claim).isSome = true := by
  by_contra gone
  have fits : later.conflict? claim = none := Option.not_isSome_iff_eq_none.mp gone
  rw [fits_of_le grown fits] at found
  cases found

/-! ### The other side -/

/-- The occupancies have the same units and as many moves on a side. -/
structure AlikeOn (side : Side) (one other : Occupancy) : Prop where
  active : ∀ kind, other.active ⟨kind, side⟩ = one.active ⟨kind, side⟩
  moves : other.moves side = one.moves side

namespace AlikeOn

variable {one other : Occupancy}

private theorem trans {third : Occupancy} (first : AlikeOn side one other)
    (second : AlikeOn side other third) : AlikeOn side one third where
  active kind := (second.active kind).trans (first.active kind)
  moves := second.moves.trans first.moves

private theorem activeUnits_eq (alike : AlikeOn side one other) :
    other.activeUnits.filter (·.side == side) = one.activeUnits.filter (·.side == side) := by
  rw [activeUnits, activeUnits, List.filter_filter, List.filter_filter]
  apply List.filter_congr
  intro unit _
  obtain ⟨kind, own⟩ := unit
  by_cases same : own = side
  · rw [same, alike.active]
  · rw [beq_false_of_ne same, Bool.false_and, Bool.false_and]

private theorem movesAvailable_eq (alike : AlikeOn side one other) :
    other.movesAvailable side = one.movesAvailable side := by
  simp only [movesAvailable, activeSharing, alike.active, alike.moves]

end AlikeOn

/-- A claim leaves a side alone that is not its own. -/
theorem alikeOn_add (elsewhere : claim.side? ≠ some side) :
    AlikeOn side occupancy (occupancy.add claim) where
  active kind := by
    have idle : claim.unit? ≠ some ⟨kind, side⟩ := by
      cases claim with
      | pseudo | move => simp [unit?]
      | unit claimed path =>
          rintro ⟨⟩
          exact elsewhere rfl
    simp [add, idle]
  moves := by
    have still : claim.moveSide? ≠ some side := by
      cases claim with
      | pseudo | unit => simp [moveSide?]
      | move => exact elsewhere
    simp [add, still]

/-- Claims leave a side alone that none of them is on. -/
theorem alikeOn_of_bookAll (elsewhere : ∀ claim ∈ claims, claim.side? ≠ some side)
    (booked : occupancy.bookAll claims = .ok later) : AlikeOn side occupancy later := by
  refine bookAll_invariant (AlikeOn side occupancy) ⟨fun _ => rfl, rfl⟩ ?_ booked
  intro claim member before after sofar once
  rw [eq_add_of_book once]
  exact sofar.trans (alikeOn_add (elsewhere claim member))

/-- **Hazards persist.** Whatever is taken in a cycle, and even past the move budgets, after
further bookings every claim that had a conflict has one, and no side has more moves left than
before. A side on which none of the claims booked takes a unit or a move has the same units
active as before, as many moves, and as many moves left. -/
theorem hazards_persist (booked : occupancy.bookAll claims = .ok later) :
    (∀ claim, (occupancy.conflict? claim).isSome = true →
        (later.conflict? claim).isSome = true) ∧
      (∀ side, later.movesAvailable side ≤ occupancy.movesAvailable side) ∧
      ∀ side, (∀ claim ∈ claims, claim.side? ≠ some side) →
        later.activeUnits.filter (·.side == side) =
            occupancy.activeUnits.filter (·.side == side) ∧
          later.moves side = occupancy.moves side ∧
          later.movesAvailable side = occupancy.movesAvailable side := by
  have grown := le_of_bookAll booked
  refine ⟨fun claim => isSome_conflict?_of_le grown, fun side => antitone_movesAvailable side grown,
    fun side elsewhere => ?_⟩
  have alike := alikeOn_of_bookAll elsewhere booked
  exact ⟨alike.activeUnits_eq, alike.moves, alike.movesAvailable_eq⟩

/-- A cycle with four moves to side A, one more than fit, and one unit on side B. -/
def overdrawn : Occupancy :=
  .add (.add (.add (.add (.add empty (.move .a (some .x1))) (.move .a none)) (.move .a none))
    (.move .a none)) (.unit ⟨.s, .b⟩ none)

/-- More bookings change what the conflict is, and not that there is one. -/
theorem hazards_persist_overdrawn :
    ∃ later, overdrawn.bookAll [.unit ⟨.l, .a⟩ none, .move .a (some .x1)] = .ok later ∧
      overdrawn.conflict? (.unit ⟨.l, .a⟩ none) = some (.movePressure ⟨.l, .a⟩) ∧
      later.conflict? (.unit ⟨.l, .a⟩ none) = some (.unitBusy ⟨.l, .a⟩) ∧
      (later.conflict? (.unit ⟨.d, .a⟩ none)).isSome = true ∧
      overdrawn.movesAvailable .b = 2 ∧ later.movesAvailable .b = 2 := by
  obtain ⟨later, booked, busy⟩ :
      ∃ later, overdrawn.bookAll [.unit ⟨.l, .a⟩ none, .move .a (some .x1)] = .ok later ∧
        later.conflict? (.unit ⟨.l, .a⟩ none) = some (.unitBusy ⟨.l, .a⟩) := ⟨_, rfl, rfl⟩
  obtain ⟨persists, -, apart⟩ := hazards_persist booked
  have left := (apart .b (by decide)).2.2
  exact ⟨later, booked, rfl, busy, persists _ rfl, rfl, left⟩

end Occupancy

end VliwPack
