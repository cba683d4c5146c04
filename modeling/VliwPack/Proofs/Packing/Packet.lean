import VliwPack.Proofs.Cycle.Ledger
import VliwPack.Proofs.Packing.Cutting
import VliwPack.Proofs.Resolution.Claiming
import VliwPack.Proofs.Resolution.Idempotence

/-! # Execute packets

A group of instructions is a legal packet if all of them resolve, their claims are
legal together, and at most the issue width of them take a slot. A group within a
legal packet is one (`LegalPacket.sublist`), and no legal packet is wider than the
machine (`LegalPacket.narrow`). Legality does not depend on the path bits that
resolving writes (`legalPacket_map_resolved`).
-/

namespace VliwPack

namespace Instruction

/-- The instruction takes an issue slot. -/
def takesSlot (instruction : Instruction) : Bool := !instruction.descriptor.isPseudo

/-- The claims of the instructions that have one, in order. -/
def claimsOf (group : List Instruction) : List Claim :=
  group.filterMap fun instruction => instruction.claim.toOption

/-- Groups put together make the claims of both. -/
theorem claimsOf_append (first second : List Instruction) :
    claimsOf (first ++ second) = claimsOf first ++ claimsOf second :=
  List.filterMap_append

/-- One instruction makes its claim. -/
theorem claimsOf_singleton {instruction : Instruction} {claim : Claim}
    (claims : instruction.claim = .ok claim) : claimsOf [instruction] = [claim] := by
  simp [claimsOf, claims, Except.toOption]

/-- Resolving gives and takes no issue slot. -/
@[simp] theorem takesSlot_resolved (instruction : Instruction) :
    instruction.resolved.takesSlot = instruction.takesSlot := by
  rw [takesSlot, descriptor_resolved, takesSlot]

/-- Resolved instructions make the same claims. -/
@[simp] theorem claimsOf_map_resolved (group : List Instruction) :
    claimsOf (group.map resolved) = claimsOf group := by
  simp [claimsOf, List.filterMap_map]

/-- Of instructions that resolve, those that take a slot are those that claim
something. -/
theorem countP_takesSlot {group : List Instruction}
    (resolves : ∀ instruction ∈ group, instruction.Resolves) :
    group.countP takesSlot = (claimsOf group).countP (· != .pseudo) := by
  induction group with
  | nil => rfl
  | cons instruction rest ih =>
      obtain ⟨claim, claims⟩ := resolves instruction List.mem_cons_self
      have rest := ih fun other member => resolves other (List.mem_cons_of_mem _ member)
      have slot : instruction.takesSlot = (claim != .pseudo) := by
        rw [takesSlot, Bool.eq_iff_iff, bne_iff_ne, ne_eq, eq_pseudo_iff_of_claim claims]
        simp
      rw [← List.singleton_append, claimsOf_append, claimsOf_singleton claims,
        List.countP_append, List.countP_append, rest, List.countP_singleton,
        List.countP_singleton, slot]

private theorem resolves_append_singleton {group : List Instruction} {instruction : Instruction}
    (all : ∀ other ∈ group, other.Resolves) (resolves : instruction.Resolves) :
    ∀ other ∈ group ++ [instruction], other.Resolves := by
  intro other member
  rcases List.mem_append.mp member with earlier | last
  · exact all other earlier
  · rwa [List.mem_singleton.mp last]

end Instruction

open Instruction

/-- The instructions can issue together in one cycle with a given issue width. -/
structure LegalPacket (width : Nat) (group : List Instruction) : Prop where
  /-- Every instruction has a claim. -/
  resolves : ∀ instruction ∈ group, instruction.Resolves
  /-- No unit and no path is claimed twice, and no move budget is exceeded. -/
  claims : Claim.Legal (claimsOf group)
  /-- The instructions that take a slot fit the issue width. -/
  fits : group.countP takesSlot ≤ width

instance (width : Nat) : DecidablePred (LegalPacket width) := fun group =>
  decidable_of_iff
    ((∀ instruction ∈ group, instruction.Resolves) ∧ Claim.Legal (claimsOf group) ∧
      group.countP takesSlot ≤ width)
    ⟨fun ⟨resolves, claims, fits⟩ => ⟨resolves, claims, fits⟩,
      fun legal => ⟨legal.resolves, legal.claims, legal.fits⟩⟩

variable {width : Nat} {group : List Instruction} {instruction : Instruction} {claim : Claim}

/-- The packet without instructions is legal. -/
theorem legalPacket_nil (width : Nat) : LegalPacket width [] where
  resolves := by simp
  claims := Claim.legal_nil
  fits := Nat.zero_le width

/-- A group within a legal packet is a legal packet. -/
theorem LegalPacket.sublist {kept : List Instruction} (legal : LegalPacket width group)
    (among : kept.Sublist group) : LegalPacket width kept where
  resolves instruction member := legal.resolves instruction (among.subset member)
  claims := legal.claims.sublist (among.filterMap _)
  fits := Nat.le_trans (among.countP_le (p := takesSlot)) legal.fits

/-- A legal packet is one for every larger issue width. -/
theorem LegalPacket.wider {wide : Nat} (legal : LegalPacket width group) (wider : width ≤ wide) :
    LegalPacket wide group :=
  { legal with fits := Nat.le_trans legal.fits wider }

/-- Part of a legal packet is legal. -/
theorem legalPacket_hereditary (width : Nat) : Hereditary (LegalPacket width) :=
  fun _ _ legal within => legal.sublist within.sublist

/-- A legal packet is no wider than the machine. -/
theorem LegalPacket.narrow (legal : LegalPacket width group) :
    LegalPacket (min width Machine.maxIssueWidth) group where
  resolves := legal.resolves
  claims := legal.claims
  fits := by
    refine Nat.le_min.mpr ⟨legal.fits, ?_⟩
    rw [countP_takesSlot legal.resolves]
    exact legal.claims.countP_le

/-- An instruction that resolves can join a legal packet if there is a slot for it and
its claim is legal with those of the packet. -/
theorem LegalPacket.append_singleton_iff (legal : LegalPacket width group)
    (claims : instruction.claim = .ok claim) (real : instruction.takesSlot = true) :
    LegalPacket width (group ++ [instruction]) ↔
      group.countP takesSlot < width ∧ Claim.Legal (claimsOf group ++ [claim]) := by
  have joined : claimsOf (group ++ [instruction]) = claimsOf group ++ [claim] := by
    rw [claimsOf_append, claimsOf_singleton claims]
  have slots : (group ++ [instruction]).countP takesSlot = group.countP takesSlot + 1 := by
    rw [List.countP_append, List.countP_singleton, if_pos real]
  constructor
  · intro whole
    have slotted := whole.fits
    rw [slots] at slotted
    exact ⟨slotted, joined ▸ whole.claims⟩
  · rintro ⟨free, together⟩
    refine ⟨resolves_append_singleton legal.resolves ⟨claim, claims⟩, joined ▸ together, ?_⟩
    rw [slots]
    exact free

/-- A pseudo instruction can join every legal packet. -/
theorem LegalPacket.append_pseudo (legal : LegalPacket width group)
    (pseudo : instruction.takesSlot = false) : LegalPacket width (group ++ [instruction]) := by
  have claims : instruction.claim = .ok .pseudo :=
    claim_of_isPseudo (by simpa [takesSlot] using pseudo)
  have joined : claimsOf (group ++ [instruction]) = claimsOf group ++ [.pseudo] := by
    rw [claimsOf_append, claimsOf_singleton claims]
  have slots : (group ++ [instruction]).countP takesSlot = group.countP takesSlot := by
    rw [List.countP_append, List.countP_singleton, pseudo]
    rfl
  refine ⟨resolves_append_singleton legal.resolves ⟨.pseudo, claims⟩, ?_, ?_⟩
  · rw [joined]
    exact legal.claims.append_singleton_iff.mpr ⟨by simp [Claim.unit?], by simp [Claim.path?],
      by simp [Claim.budgetSide?]⟩
  · rw [slots]
    exact legal.fits

/-- Pseudo instructions can join every legal packet. -/
theorem LegalPacket.append_pseudos {more : List Instruction} (legal : LegalPacket width group)
    (pseudo : ∀ instruction ∈ more, instruction.takesSlot = false) :
    LegalPacket width (group ++ more) := by
  induction more generalizing group with
  | nil => rwa [List.append_nil]
  | cons instruction rest ih =>
      obtain ⟨here, there⟩ := List.forall_mem_cons.mp pseudo
      rw [List.append_cons]
      exact ih (legal.append_pseudo here) there

/-- The instructions of a legal packet can stand in any order. -/
theorem LegalPacket.perm {other : List Instruction} (legal : LegalPacket width group)
    (permuted : group.Perm other) : LegalPacket width other where
  resolves instruction member := legal.resolves instruction (permuted.mem_iff.mpr member)
  claims := (Claim.legal_perm (permuted.filterMap _)).mp legal.claims
  fits := permuted.countP_eq takesSlot ▸ legal.fits

/-- An instruction that resolves is a legal packet by itself. -/
theorem legalPacket_singleton (positive : 0 < width) (resolves : instruction.Resolves) :
    LegalPacket width [instruction] := by
  obtain ⟨claim, claims⟩ := resolves
  cases real : instruction.takesSlot with
  | false => exact (legalPacket_nil width).append_pseudo real
  | true =>
      refine ((legalPacket_nil width).append_singleton_iff claims real).mpr ⟨positive, ?_⟩
      exact Claim.legal_singleton claim

/-- Resolving the instructions of a group does not change whether it is a legal
packet. -/
theorem legalPacket_map_resolved (width : Nat) (group : List Instruction) :
    LegalPacket width (group.map resolved) ↔ LegalPacket width group := by
  have slots : (group.map resolved).countP takesSlot = group.countP takesSlot := by
    simp [List.countP_map, Function.comp_def]
  constructor
  · intro legal
    refine ⟨?_, claimsOf_map_resolved group ▸ legal.claims, slots ▸ legal.fits⟩
    intro instruction member
    exact (resolves_resolved instruction).mp (legal.resolves _ (List.mem_map_of_mem member))
  · intro legal
    refine ⟨?_, (claimsOf_map_resolved group).symm ▸ legal.claims, slots.symm ▸ legal.fits⟩
    intro instruction member
    obtain ⟨original, among, rfl⟩ := List.mem_map.mp member
    exact (resolves_resolved original).mpr (legal.resolves original among)

end VliwPack
