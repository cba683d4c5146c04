import Mathlib.Data.List.Forall2
import VliwPack.Proofs.Packing.Step

/-! # Packings that correspond

Two packings go in lockstep if what one recognizer, claim, conflict and instruction becomes
is the other one's, operation by operation (`Correspondence`). Then the second packing of
a region does the same calls in the same cycles as the first, with the instructions
changed, and ends with the same outcome (`Correspondence.pack_eq`). Only the operations
of a recognizer have to be compared; how packing strings them together is compared here,
once.
-/

namespace VliwPack

/-- The call for a changed instruction. -/
def BundleCall.map (change : Instruction → Instruction) : BundleCall → BundleCall
  | .begin cycle => .begin cycle
  | .push instruction => .push (change instruction)

/-- A call that keeps its instruction is the same call. -/
theorem BundleCall.map_id (call : BundleCall) : call.map id = call := by
  cases call <;> rfl

namespace Recognizer

/-- A claim has been booked. -/
def booked (recognizer : Recognizer) (claim : Claim) : Recognizer :=
  ⟨recognizer.occupancy.add claim, recognizer.stats.countClaim claim⟩

/-- A new cycle has been begun. -/
def advanced (recognizer : Recognizer) : Recognizer :=
  ⟨.empty, { recognizer.stats with cycles := recognizer.stats.cycles + 1 }⟩

/-- Conflicts correspond where claims and conflicts are left as they are. -/
theorem conflict?_id (recognizer : Recognizer) (claim : Claim) :
    recognizer.occupancy.conflict? (id claim) =
      (recognizer.occupancy.conflict? claim).map id :=
  Option.map_id_apply.symm

end Recognizer

/-- What makes a second packing go in lockstep with a first. -/
structure Correspondence where
  /-- The second recognizer. -/
  recognizer : Recognizer → Recognizer
  /-- The claim made in the second packing. -/
  claim : Claim → Claim
  /-- The conflict found in the second packing. -/
  conflict : Conflict → Conflict
  /-- The instruction pushed in the second packing. -/
  pushed : Instruction → Instruction
  /-- The instructions of the two regions. -/
  Compared : Instruction → Instruction → Prop
  isPseudo_eq : ∀ {first second}, Compared first second →
    second.descriptor.isPseudo = first.descriptor.isPseudo
  claim_eq : ∀ {first second}, Compared first second → second.claim = first.claim.map claim
  resolved_eq : ∀ {first second}, Compared first second → first.Resolves →
    second.resolved = pushed first.resolved
  conflict?_eq : ∀ one checked, (recognizer one).occupancy.conflict? (claim checked) =
    (one.occupancy.conflict? checked).map conflict
  counted_eq : ∀ one found, recognizer (one.countVerdict (some found)) =
    (recognizer one).countVerdict (some (conflict found))
  booked_eq : ∀ one made, recognizer (one.booked made) = (recognizer one).booked (claim made)
  advanced_eq : ∀ one, recognizer one.advanced = (recognizer one).advanced
  countBundle_eq : ∀ one, recognizer one.countBundle = (recognizer one).countBundle

namespace Correspondence

open Packing

variable (correspondence : Correspondence) {first second : Instruction}

/-- The second packing stands where the first does. -/
def packing (packing : Packing) : Packing :=
  ⟨correspondence.recognizer packing.recognizer, packing.cursor⟩

private theorem packing_booked (packing : Packing) (claim : Claim) :
    correspondence.packing (packing.booked claim) =
      (correspondence.packing packing).booked (correspondence.claim claim) :=
  congrArg (Packing.mk · packing.cursor) (correspondence.booked_eq packing.recognizer claim)

private theorem packing_counted (packing : Packing) (conflict : Conflict) :
    correspondence.packing (packing.counted conflict) =
      (correspondence.packing packing).counted (correspondence.conflict conflict) :=
  congrArg (Packing.mk · packing.cursor) (correspondence.counted_eq packing.recognizer conflict)

private theorem packing_advanced (packing : Packing) :
    correspondence.packing packing.advanced = (correspondence.packing packing).advanced :=
  congrArg (Packing.mk · _) (correspondence.advanced_eq packing.recognizer)

/-- Corresponding runs open bundles together. -/
theorem packing_opened (packing : Packing) :
    correspondence.packing packing.opened = (correspondence.packing packing).opened := by
  by_cases isOpen : packing.cursor.isOpen = true
  · have also : (correspondence.packing packing).cursor.isOpen = true := isOpen
    rw [opened, if_pos isOpen, opened, if_pos also]
  · have also : ¬ (correspondence.packing packing).cursor.isOpen = true := isOpen
    rw [opened, if_neg isOpen, opened, if_neg also]
    exact congrArg (Packing.mk · _) (correspondence.countBundle_eq packing.recognizer)

private theorem packing_joined (packing : Packing) (claim : Claim) :
    correspondence.packing (packing.joined claim) =
      (correspondence.packing packing).joined (correspondence.claim claim) := by
  unfold joined
  rw [← packing_booked, ← packing_opened]
  rfl

private theorem map_announcement (cursor : Cursor) (instruction : Instruction) :
    (announcement cursor instruction).map (BundleCall.map correspondence.pushed) =
      announcement cursor (correspondence.pushed instruction) := by
  unfold announcement
  split <;> rfl

/-- The second trail is the first one, changed; what they report is not compared. -/
structure Follows (one other : Trail Packing (List BundleCall)) : Prop where
  outcome : other.outcome = one.outcome.map (List.map (BundleCall.map correspondence.pushed))
  state : other.state = correspondence.packing one.state

section Place

variable {correspondence} (compared : correspondence.Compared first second) (width : Nat)
  (packing : Packing)

include compared

/-- What cannot be resolved stops both runs. -/
theorem follows_place_of_fault {fault : Fault} (fails : first.claim = .error fault) :
    correspondence.Follows (place width first packing)
      (place width second (correspondence.packing packing)) := by
  have alsoFails : second.claim = .error fault := by
    rw [correspondence.claim_eq compared, fails]
    rfl
  rcases Nat.lt_or_ge packing.cursor.issued width with room | full
  · have alsoRoom : (correspondence.packing packing).cursor.issued < width := room
    rw [place_of_fault_of_room fails room, place_of_fault_of_room alsoFails alsoRoom]
    exact ⟨rfl, rfl⟩
  · have alsoFull : width ≤ (correspondence.packing packing).cursor.issued := full
    rw [place_of_fault_of_full fails full, place_of_fault_of_full alsoFails alsoFull]
    exact ⟨rfl, (correspondence.packing_advanced packing).symm⟩

/-- Pseudo instructions are placed alike. -/
theorem follows_place_of_pseudo (pseudo : first.descriptor.isPseudo = true) :
    correspondence.Follows (place width first packing)
      (place width second (correspondence.packing packing)) := by
  have alsoPseudo := (correspondence.isPseudo_eq compared).trans pseudo
  have claims := Instruction.claim_of_isPseudo pseudo
  have nothing : correspondence.claim .pseudo = .pseudo := by
    have alsoClaims := Instruction.claim_of_isPseudo alsoPseudo
    rw [correspondence.claim_eq compared, claims] at alsoClaims
    exact Except.ok.inj alsoClaims
  have kept := correspondence.resolved_eq compared ⟨.pseudo, claims⟩
  rw [Instruction.resolved_of_isPseudo pseudo, Instruction.resolved_of_isPseudo alsoPseudo] at kept
  rw [place_of_pseudo pseudo, place_of_pseudo alsoPseudo]
  constructor
  · rw [kept, Except.map, map_announcement]
    rfl
  · rw [packing_opened, packing_booked, nothing]

/-- Corresponding claims are placed alike. -/
theorem follows_place_of_claim {claim : Claim} (real : first.descriptor.isPseudo = false)
    (claims : first.claim = .ok claim) :
    correspondence.Follows (place width first packing)
      (place width second (correspondence.packing packing)) := by
  have alsoReal := (correspondence.isPseudo_eq compared).trans real
  have alsoClaims : second.claim = .ok (correspondence.claim claim) := by
    rw [correspondence.claim_eq compared, claims]
    rfl
  have changed := correspondence.resolved_eq compared ⟨claim, claims⟩
  rcases Nat.lt_or_ge packing.cursor.issued width with room | full
  · have alsoRoom : (correspondence.packing packing).cursor.issued < width := room
    have verdict := correspondence.conflict?_eq packing.recognizer claim
    cases found : packing.recognizer.occupancy.conflict? claim with
    | none =>
        rw [found] at verdict
        rw [place_of_fits real room claims found,
          place_of_fits alsoReal alsoRoom alsoClaims verdict]
        constructor
        · rw [changed, Except.map, map_announcement]
          rfl
        · rw [packing_joined]
    | some conflict =>
        rw [found] at verdict
        rw [place_of_conflict real room claims found,
          place_of_conflict alsoReal alsoRoom alsoClaims verdict]
        constructor
        · rw [changed]
          rfl
        · rw [packing_joined, packing_advanced, packing_counted]
  · have alsoFull : width ≤ (correspondence.packing packing).cursor.issued := full
    rw [place_of_full real full claims, place_of_full alsoReal alsoFull alsoClaims]
    constructor
    · rw [changed]
      rfl
    · rw [packing_joined, packing_advanced]

/-- The two instructions are placed in the same way, whichever it is. -/
theorem follows_place :
    correspondence.Follows (place width first packing)
      (place width second (correspondence.packing packing)) := by
  cases claims : first.claim with
  | error fault => exact follows_place_of_fault compared width packing claims
  | ok claim =>
      cases real : first.descriptor.isPseudo with
      | true => exact follows_place_of_pseudo compared width packing real
      | false => exact follows_place_of_claim compared width packing real claims

end Place

/-- The result of the second packing is that of the first, changed. -/
structure Corresponds (one other : PackResult) : Prop where
  outcome : other.outcome = one.outcome
  calls : other.calls = one.calls.map (BundleCall.map correspondence.pushed)
  recognizer : other.recognizer = correspondence.recognizer one.recognizer

/-- Packing regions of compared instructions corresponds from packings that correspond. -/
theorem run_eq {region other : List Instruction}
    (compared : List.Forall₂ correspondence.Compared region other) (width : Nat)
    (packing : Packing) :
    correspondence.Corresponds (run width packing region)
      (run width (correspondence.packing packing) other) := by
  induction compared generalizing packing with
  | nil => exact ⟨rfl, rfl, rfl⟩
  | @cons first second rest others here there ih =>
      have follows := follows_place here width packing
      rcases step : place width first packing with ⟨⟨result, reported⟩, next⟩
      rcases placed : place width second (correspondence.packing packing) with
        ⟨⟨outcome, events⟩, last⟩
      rw [step, placed] at follows
      obtain ⟨rfl, rfl⟩ := follows
      have remaining := ih next
      cases result with
      | error fault => refine ⟨?_, ?_, ?_⟩ <;> rw [run, run, step, placed] <;> rfl
      | ok calls =>
          refine ⟨?_, ?_, ?_⟩ <;> rw [run, run, step, placed]
          · exact remaining.outcome
          · simp only [Except.map, PackResult.after, List.map_append, remaining.calls]
          · exact remaining.recognizer

/-- Packing regions of compared instructions corresponds. -/
theorem pack_eq {region other : List Instruction}
    (compared : List.Forall₂ correspondence.Compared region other) (width : Nat)
    {one another : Recognizer} (start : another.reset = correspondence.recognizer one.reset) :
    correspondence.Corresponds (one.pack width region) (another.pack width other) := by
  rw [Recognizer.pack, Recognizer.pack, start]
  exact correspondence.run_eq compared width { recognizer := one.reset }

end Correspondence

end VliwPack
