import VliwPack.Proofs.Packing.Packet
import VliwPack.Proofs.Packing.Step

/-! # Where an instruction is placed

While a region is packed, the recognizer holds exactly the claims of the group that has
been issued in the current cycle, and the cursor counts its slots (`Packing.Holds`). So
placing an instruction asks exactly whether the group stays a legal packet with it: if
so it joins the group (`Holds.place_of_joins`), and else it begins the next cycle by
itself (`Holds.place_of_closes`).
-/

namespace VliwPack.Packing

open Instruction

variable {packing : Packing} {width : Nat} {group : List Instruction} {instruction : Instruction}
  {claim : Claim}

/-- The group has been issued in the current cycle, and nothing else has. -/
structure Holds (packing : Packing) (group : List Instruction) : Prop where
  /-- What is booked are the claims of the group. -/
  ledger : packing.recognizer.occupancy = .ofClaims (claimsOf group)
  /-- The slots taken are those of the group. -/
  slots : packing.cursor.issued = group.countP takesSlot
  /-- The bundle is begun with the first instruction of the group. -/
  opens : packing.cursor.isOpen = !group.isEmpty

namespace Holds

/-- A new cycle holds nothing. -/
theorem advanced (packing : Packing) : packing.advanced.Holds [] where
  ledger := by rw [claimsOf, List.filterMap_nil, Occupancy.ofClaims_nil]; rfl
  slots := rfl
  opens := rfl

/-- A region starts with nothing held. -/
theorem start (recognizer : Recognizer) :
    Packing.Holds { recognizer := recognizer.reset } [] where
  ledger := by rw [claimsOf, List.filterMap_nil, Occupancy.ofClaims_nil]; rfl
  slots := rfl
  opens := rfl

/-- Issuing an instruction adds it to the group. -/
theorem joined (holds : packing.Holds group) (claims : instruction.claim = .ok claim)
    (real : instruction.takesSlot = true) :
    (packing.joined claim).Holds (group ++ [instruction]) where
  ledger := by
    rw [claimsOf_append, claimsOf_singleton claims, Occupancy.ofClaims_append_singleton,
      ← holds.ledger, occupancy_joined]
  slots := by
    rw [List.countP_append, List.countP_singleton, if_pos real, ← holds.slots, issued_joined]
  opens := by simp

/-- Passing a pseudo instruction through adds it to the group. -/
theorem passed (holds : packing.Holds group) (pseudo : instruction.takesSlot = false) :
    (packing.booked .pseudo).opened.Holds (group ++ [instruction]) where
  ledger := by
    have claims : instruction.claim = .ok .pseudo :=
      claim_of_isPseudo (by simpa [takesSlot] using pseudo)
    rw [claimsOf_append, claimsOf_singleton claims, Occupancy.ofClaims_append_singleton,
      ← holds.ledger, occupancy_opened, occupancy_booked]
  slots := by
    rw [List.countP_append, List.countP_singleton, pseudo, ← holds.slots, issued_opened,
      cursor_booked]
    rfl
  opens := by simp

/-- A claim fits the current cycle if it is legal with those of the group. -/
theorem conflict?_eq_none_iff (holds : packing.Holds group) (legal : LegalPacket width group)
    (claim : Claim) :
    packing.recognizer.occupancy.conflict? claim = none ↔
      Claim.Legal (claimsOf group ++ [claim]) := by
  rw [holds.ledger, Occupancy.conflict?_ofClaims_eq_none_iff legal.claims]

/-- An instruction with which the group stays a legal packet joins it. -/
theorem place_of_joins (holds : packing.Holds group)
    (joins : LegalPacket width (group ++ [instruction])) :
    ∃ events next,
      place width instruction packing =
        ⟨⟨.ok (announcement packing.cursor instruction.resolved), events⟩, next⟩ ∧
      next.Holds (group ++ [instruction]) ∧ next.cursor.cycle = packing.cursor.cycle := by
  have legal : LegalPacket width group := joins.sublist (List.sublist_append_left _ _)
  cases real : instruction.takesSlot with
  | false =>
      have pseudo : instruction.descriptor.isPseudo = true := by simpa [takesSlot] using real
      rw [place_of_pseudo pseudo, resolved_of_isPseudo pseudo]
      exact ⟨_, _, rfl, holds.passed real, by simp⟩
  | true =>
      obtain ⟨claim, claims⟩ := joins.resolves instruction (by simp)
      obtain ⟨free, together⟩ := (legal.append_singleton_iff claims real).mp joins
      have room : packing.cursor.issued < width := holds.slots ▸ free
      have fits := (holds.conflict?_eq_none_iff legal claim).mpr together
      rw [place_of_fits (by simpa [takesSlot] using real) room claims fits]
      exact ⟨_, _, rfl, holds.joined claims real, by simp⟩

/-- An instruction with which the group would be no legal packet begins the next
cycle. -/
theorem place_of_closes (holds : packing.Holds group) (legal : LegalPacket width group)
    (resolves : instruction.Resolves) (closes : ¬ LegalPacket width (group ++ [instruction])) :
    ∃ events next,
      place width instruction packing =
        ⟨⟨.ok [.begin (packing.cursor.cycle + 1), .push instruction.resolved], events⟩, next⟩ ∧
      next.Holds [instruction] ∧ next.cursor.cycle = packing.cursor.cycle + 1 := by
  obtain ⟨claim, claims⟩ := resolves
  cases real : instruction.takesSlot with
  | false => exact absurd (legal.append_pseudo real) closes
  | true =>
      have issues : instruction.descriptor.isPseudo = false := by simpa [takesSlot] using real
      rcases Nat.lt_or_ge packing.cursor.issued width with room | full
      · cases found : packing.recognizer.occupancy.conflict? claim with
        | none =>
            -- With a slot and no conflict the group would have stayed a legal packet.
            have together := (holds.conflict?_eq_none_iff legal claim).mp found
            have free : group.countP takesSlot < width := holds.slots ▸ room
            exact absurd ((legal.append_singleton_iff claims real).mpr ⟨free, together⟩) closes
        | some conflict =>
            rw [place_of_conflict issues room claims found]
            exact ⟨_, _, rfl, (Holds.advanced _).joined claims real, by simp⟩
      · rw [place_of_full issues full claims]
        exact ⟨_, _, rfl, (Holds.advanced _).joined claims real, by simp⟩

end Holds

end VliwPack.Packing
