import VliwPack.Proofs.Cycle.Ledger
import VliwPack.Proofs.Recognizer.Operations

/-! # Booking a batch of claims

A driver that books each claim without a conflict and gives up at the first one with a
conflict can book a whole batch exactly if its claims are legal together. The check looks
at one claim at a time, but whether the batch is booked does not depend on its order, and
neither does the recognizer that the bookings leave (`Recognizer.bookAll_iff_legal`).
-/

namespace VliwPack.Recognizer

open Claim

variable {recognizer : Recognizer} {claims before : List Claim} {claim : Claim} {stats : Stats}

/-- Books a claim that has no conflict with the cycle, and refuses any other. -/
def bookFitting (recognizer : Recognizer) (claim : Claim) : Option Recognizer :=
  match recognizer.occupancy.conflict? claim, book claim recognizer with
  | none, ⟨⟨.ok (), _⟩, next⟩ => some next
  | _, _ => none

/-- Books claims in order, unless one of them is refused. -/
def bookAll (recognizer : Recognizer) (claims : List Claim) : Option Recognizer :=
  claims.foldlM bookFitting recognizer

private theorem bookFitting_of_fits (fits : recognizer.occupancy.conflict? claim = none) :
    recognizer.bookFitting claim =
      some ⟨recognizer.occupancy.add claim, recognizer.stats.countClaim claim⟩ := by
  rw [bookFitting, fits, book_apply_of_ok (Occupancy.book_of_conflict?_eq_none fits)]

private theorem bookFitting_of_conflict {conflict : Conflict}
    (found : recognizer.occupancy.conflict? claim = some conflict) :
    recognizer.bookFitting claim = none := by
  rw [bookFitting, found]

/-- A cycle that holds legal claims takes one more if they are legal together. -/
theorem bookFitting_ofClaims (legal : Legal before) (stats : Stats) (claim : Claim) :
    bookFitting ⟨.ofClaims before, stats⟩ claim =
      if Legal (before ++ [claim]) then
        some ⟨.ofClaims (before ++ [claim]), stats.countClaim claim⟩
      else none := by
  cases found : (Occupancy.ofClaims before).conflict? claim with
  | none =>
      have together := (Occupancy.conflict?_ofClaims_eq_none_iff legal).mp found
      rw [bookFitting_of_fits found, if_pos together, Occupancy.ofClaims_append_singleton]
  | some conflict =>
      have apart : ¬ Legal (before ++ [claim]) := by
        rw [← Occupancy.conflict?_ofClaims_eq_none_iff legal, found]
        simp
      rw [bookFitting_of_conflict found, if_neg apart]

/-- A cycle that holds legal claims takes more of them if all are legal together, and
then it holds all of them. -/
theorem bookAll_ofClaims (legal : Legal before) (stats : Stats) (claims : List Claim) :
    bookAll ⟨.ofClaims before, stats⟩ claims =
      if Legal (before ++ claims) then
        some ⟨.ofClaims (before ++ claims), claims.foldl Stats.countClaim stats⟩
      else none := by
  -- The claims booked so far are legal, so the next check decides whether they stay so.
  induction claims generalizing before stats with
  | nil =>
      rw [List.append_nil, if_pos legal]
      rfl
  | cons claim rest ih =>
      rw [bookAll, List.foldlM_cons, bookFitting_ofClaims legal]
      by_cases joins : Legal (before ++ [claim])
      · have remaining := ih joins (stats.countClaim claim)
        rw [List.append_assoc, List.singleton_append] at remaining
        rw [if_pos joins]
        exact remaining
      · have apart : ¬ Legal (before ++ claim :: rest) := by
          intro whole
          apply joins
          apply whole.sublist
          rw [List.append_cons before claim rest]
          exact List.sublist_append_left (before ++ [claim]) rest
        rw [if_neg joins, if_neg apart]
        rfl

/-- From the empty cycle, claims are booked exactly if they are legal together. -/
theorem bookAll_empty (stats : Stats) (claims : List Claim) :
    bookAll ⟨.empty, stats⟩ claims =
      if Legal claims then some ⟨.ofClaims claims, claims.foldl Stats.countClaim stats⟩
      else none := by
  have booked := bookAll_ofClaims legal_nil stats claims
  rwa [Occupancy.ofClaims_nil, List.nil_append] at booked

/-- Claims are counted by kind, so their order does not matter. -/
theorem foldl_countClaim_perm {other : List Claim} (permuted : claims.Perm other)
    (stats : Stats) :
    claims.foldl Stats.countClaim stats = other.foldl Stats.countClaim stats := by
  apply permuted.foldl_eq'
  intro first _ second _ counted
  cases first <;> cases second <;> rfl

/-- From an empty cycle a list of claims is booked to its end exactly if the claims are
legal together: no unit twice, no cross path twice, and no side's move budget exceeded. In
any other order they are booked too and leave the same recognizer. -/
theorem bookAll_iff_legal (stats : Stats) (claims : List Claim) :
    ((∃ last, bookAll ⟨.empty, stats⟩ claims = some last) ↔ Legal claims) ∧
      ∀ last, bookAll ⟨.empty, stats⟩ claims = some last →
        ∀ other, claims.Perm other → bookAll ⟨.empty, stats⟩ other = some last := by
  constructor
  · rw [bookAll_empty]
    by_cases legal : Legal claims
    · rw [if_pos legal]
      exact ⟨fun _ => legal, fun _ => ⟨_, rfl⟩⟩
    · rw [if_neg legal]
      constructor
      · rintro ⟨last, ⟨⟩⟩
      · exact fun whole => absurd whole legal
  · intro last booked other permuted
    have legality : Legal claims ↔ Legal other := legal_perm permuted
    rw [← booked, bookAll_empty, bookAll_empty, Occupancy.ofClaims_perm permuted,
      foldl_countClaim_perm permuted]
    simp only [legality]

/-- Three moves to side A, one of them from side B, and a multiplication there. -/
def movesAndMultiply : List Claim :=
  [.move .a none, .unit ⟨.m, .a⟩ none, .move .a (some .x1), .move .a none]

/-- The moves and the unit use the budget up in either order, so that no further unit fits. -/
theorem bookAll_iff_legal_movesAndMultiply :
    (∃ last, bookAll ⟨.empty, {}⟩ movesAndMultiply = some last ∧
        last.occupancy.movesAvailable .a = 0 ∧
        bookAll ⟨.empty, {}⟩ movesAndMultiply.reverse = some last) ∧
      ¬ Legal (.unit ⟨.d, .a⟩ none :: movesAndMultiply) := by
  obtain ⟨last, booked⟩ := (bookAll_iff_legal {} movesAndMultiply).1.mpr (by decide)
  refine ⟨⟨last, booked, ?_, ?_⟩, by decide⟩
  · rw [bookAll_empty, if_pos (by decide)] at booked
    cases booked
    decide
  · exact (bookAll_iff_legal {} movesAndMultiply).2 last booked _
      (List.reverse_perm movesAndMultiply).symm

end VliwPack.Recognizer
