import VliwPack.Assembly.Instruction
import VliwPack.Proofs.Packing.Bundles
import VliwPack.Proofs.Resolution.Claiming

/-! # The unit fields of a bundle

A resolved instruction is printed with the unit and the cross path that it claims
(`Instruction.unitText?_of_claim`), so the unit fields of a bundle are those of its claims
(`unitFields_of_resolved`). The claims of a bundle are legal together, and each names a
cross path of its own side. So no two fields name the same unit, no memory path and no
cross on a side is written twice, and no cross is written on a side that a move of the
bundle reads across (`Recognizer.pack_unitFields_distinct`).
-/

namespace VliwPack

open Instruction

variable {unit : FunctionalUnit} {path : Option CrossPath} {side : Side} {claim : Claim}
  {claims : List Claim} {group : List Instruction} {width : Nat}

/-! ### Reading a unit field -/

/-- A unit field: the unit's name and the mark of the cross path. -/
def Claim.unitField? : Claim → Option String
  | .unit claimed path => some (claimed.text ++ pathMark path)
  | .pseudo | .move _ _ => none

namespace UnitField

/-- The unit that a field names: a letter and a digit. -/
def unitName (field : String) : List Char := field.toList.take 2

/-- The unit that the field names is on the side. -/
def isOn (side : Side) (field : String) : Bool :=
  (unitName field).drop 1 == (toString side.number).toList

/-- The field ends in the mark. -/
def endsIn (mark field : String) : Bool := mark.toList.isSuffixOf field.toList

/-- The field carries a cross. -/
def hasCross (field : String) : Bool := field.toList.contains 'X'

/-- There are few fields, so what holds of each of them can be checked. -/
theorem forall_fields {holds : FunctionalUnit → Option CrossPath → Prop}
    (each : ∀ unit ∈ FunctionalUnit.all, ∀ path ∈ none :: CrossPath.all.map some, holds unit path)
    (unit : FunctionalUnit) (path : Option CrossPath) : holds unit path := by
  apply each unit unit.mem_all
  cases path with
  | none => exact List.mem_cons_self
  | some path => exact List.mem_cons_of_mem _ (List.mem_map_of_mem path.mem_all)

private theorem unitName_eq (unit : FunctionalUnit) (path : Option CrossPath) :
    unitName (unit.text ++ pathMark path) = unit.text.toList := by
  revert unit path
  exact forall_fields (by decide)

/-- A unit is known by its name. -/
theorem text_injective : Function.Injective fun unit : FunctionalUnit => unit.text.toList := by
  have distinct : ∀ first ∈ FunctionalUnit.all, ∀ second ∈ FunctionalUnit.all,
      first.text.toList = second.text.toList → first = second := by decide
  intro first second same
  exact distinct first first.mem_all second second.mem_all same

private theorem isOn_eq (side : Side) (unit : FunctionalUnit) (path : Option CrossPath) :
    isOn side (unit.text ++ pathMark path) = (unit.side == side) := by
  revert unit path
  cases side <;> exact forall_fields (by decide)

/-- A memory path is known by the end of the field. -/
theorem endsIn_eq {memory : CrossPath} (address : memory.isAddress = true)
    (unit : FunctionalUnit) (path : Option CrossPath) :
    endsIn memory.text (unit.text ++ pathMark path) = (path == some memory) := by
  revert unit path
  cases memory with
  | t1 => exact forall_fields (by decide)
  | t2 => exact forall_fields (by decide)
  | x1 => cases address
  | x2 => cases address

/-- A cross stands for a data path. -/
theorem hasCross_eq (unit : FunctionalUnit) (path : Option CrossPath) :
    hasCross (unit.text ++ pathMark path) = path.any (!·.isAddress) := by
  revert unit path
  exact forall_fields (by decide)

/-- The fields can stand in one bundle: no unit and no memory path is named twice, and
each side has at most one cross. -/
structure Distinct (fields : List String) : Prop where
  units : (fields.map unitName).Nodup
  memory : ∀ mark ∈ ["T1", "T2"], fields.countP (endsIn mark) ≤ 1
  crosses : ∀ side, fields.countP (fun field => isOn side field && hasCross field) ≤ 1

end UnitField

/-! ### The fields of claims -/

open UnitField

namespace Claim

/-- A claim with a unit field is a claim of a unit, and the field is the unit and its path. -/
theorem unitField?_eq_some {field : String} (written : claim.unitField? = some field) :
    ∃ unit path, claim = .unit unit path ∧ field = unit.text ++ pathMark path := by
  cases claim <;> cases written
  exact ⟨_, _, rfl, rfl⟩

/-- The names in the fields are those of the units claimed. -/
theorem map_unitName_unitFields (claims : List Claim) :
    (claims.filterMap unitField?).map unitName =
      (claims.filterMap unit?).map fun unit => unit.text.toList := by
  rw [List.map_filterMap, List.map_filterMap]
  congr 1
  funext claim
  cases claim with
  | pseudo => rfl
  | unit claimed path => exact congrArg some (unitName_eq claimed path)
  | move side path => rfl

/-- What only the claims of one cross path write, legal claims write at most once. -/
theorem Legal.countP_unitFields_le_one (legal : Legal claims) (path : CrossPath)
    {marked : String → Bool}
    (only : ∀ claim ∈ claims, ∀ field, claim.unitField? = some field → marked field = true →
      claim.path? = some path) :
    (claims.filterMap unitField?).countP marked ≤ 1 := by
  have once := List.nodup_iff_count_le_one.mp legal.paths path
  rw [List.count_filterMap] at once
  refine Nat.le_trans ?_ once
  rw [List.countP_filterMap]
  apply List.countP_mono_left
  intro claim member writes
  cases written : claim.unitField? with
  | none => simp [written] at writes
  | some field =>
      have named := only claim member field written (by simpa [written] using writes)
      rw [named]
      exact beq_self_eq_true _

/-- A field with a cross is that of a claim of the data path into the side of its unit. -/
theorem path?_of_hasCross (routed : claim.Routed) {field : String}
    (written : claim.unitField? = some field) (own : isOn side field = true)
    (crossed : hasCross field = true) : claim.path? = some (.data side) := by
  obtain ⟨unit, path, rfl, rfl⟩ := unitField?_eq_some written
  rw [isOn_eq, beq_iff_eq] at own
  rw [hasCross_eq] at crossed
  obtain ⟨other, named, crossing⟩ := (Option.any_eq_true _ _).mp crossed
  rcases routed other named with address | same
  · rw [address] at crossing
    cases crossing
  · rw [path?, named, same, own]

/-- The unit fields of legal claims can stand in one bundle. -/
theorem Legal.distinct_unitFields (legal : Legal claims)
    (routed : ∀ claim ∈ claims, claim.Routed) : Distinct (claims.filterMap unitField?) where
  units := by
    rw [map_unitName_unitFields]
    exact legal.units.map text_injective
  memory := by
    have one {path : CrossPath} (address : path.isAddress = true) :
        (claims.filterMap unitField?).countP (endsIn path.text) ≤ 1 := by
      apply legal.countP_unitFields_le_one path
      intro claim _ field written ends
      obtain ⟨unit, other, rfl, rfl⟩ := unitField?_eq_some written
      rwa [endsIn_eq address, beq_iff_eq] at ends
    intro mark listed
    rcases List.mem_pair.mp listed with rfl | rfl
    · exact @one .t1 rfl
    · exact @one .t2 rfl
  crosses := by
    intro side
    apply legal.countP_unitFields_le_one (.data side)
    intro claim member field written marked
    obtain ⟨own, crossed⟩ := Bool.and_eq_true_iff.mp marked
    exact path?_of_hasCross (routed claim member) written own crossed

end Claim

/-! ### The fields of a bundle -/

namespace Instruction

variable {instruction : Instruction}

/-- The unit field of a resolved instruction spells what it claims. -/
theorem unitText?_of_claim (claims : instruction.claim = .ok (.unit unit path))
    (settled : instruction.resolved = instruction) :
    instruction.unitText?.outcome = .ok (some (unit.text ++ pathMark path)) := by
  have unmoved : instruction.descriptor.isMove = false := by
    cases claiming_of_claim claims with
    | fixed _ unmoved => exact unmoved
    | written _ unmoved => exact unmoved
  obtain ⟨named, crosses⟩ := unit_and_path_of_claim claims
  rw [settled] at named crosses
  rcases found : instruction.crossPath with ⟨outcome, events⟩
  rw [found] at crosses
  cases crosses
  unfold unitText?
  rw [unmoved, named, found]
  rfl

/-- The instruction is printed with a unit field: it is neither pseudo nor a move. -/
def hasUnitField (instruction : Instruction) : Bool :=
  !instruction.descriptor.isPseudo && !instruction.descriptor.isMove

/-- A move to the side from the other side. -/
structure MovesAcross (instruction : Instruction) (side : Side) : Prop where
  real : instruction.descriptor.isPseudo = false
  move : instruction.descriptor.isMove = true
  destination : instruction.registerSide? 0 = some side
  source : instruction.registerSide? 1 = some side.opposite

/-- A move across to a side claims the data path there. -/
theorem MovesAcross.claim_eq (across : instruction.MovesAcross side)
    (resolves : instruction.Resolves) :
    instruction.claim = .ok (.move side (some (.data side))) := by
  obtain ⟨claim, claims⟩ := resolves
  rw [claims]
  cases claiming_of_claim claims with
  | pseudo pseudo =>
      rw [across.real] at pseudo
      cases pseudo
  | fixed _ unmoved =>
      rw [across.move] at unmoved
      cases unmoved
  | written _ unmoved =>
      rw [across.move] at unmoved
      cases unmoved
  | move _ _ route =>
      obtain ⟨source, here, there, rfl⟩ := registerSides_of_moveRoute route
      cases across.destination.symm.trans here
      cases across.source.symm.trans there
      rw [if_neg (by cases side <;> decide)]

end Instruction

/-- The unit fields of resolved instructions are those of their claims. -/
theorem unitFields_of_resolved (resolves : ∀ instruction ∈ group, instruction.Resolves)
    (settled : ∀ instruction ∈ group, instruction.resolved = instruction) :
    List.Forall₂ (fun instruction field => instruction.unitText?.outcome = .ok (some field))
      (group.filter hasUnitField) ((claimsOf group).filterMap Claim.unitField?) := by
  induction group with
  | nil => exact .nil
  | cons instruction rest ih =>
      obtain ⟨⟨claim, claims⟩, resolves⟩ := List.forall_mem_cons.mp resolves
      obtain ⟨kept, settled⟩ := List.forall_mem_cons.mp settled
      have remaining := ih resolves settled
      rw [← List.singleton_append, claimsOf_append, claimsOf_singleton claims,
        List.singleton_append, List.singleton_append]
      cases claiming_of_claim claims with
      | pseudo pseudo =>
          rw [List.filter_cons_of_neg (by simp [hasUnitField, pseudo])]
          exact remaining
      | move _ move =>
          rw [List.filter_cons_of_neg (by simp [hasUnitField, move])]
          exact remaining
      | fixed real unmoved =>
          rw [List.filter_cons_of_pos (by simp [hasUnitField, real, unmoved])]
          exact .cons (unitText?_of_claim claims kept) remaining
      | written real unmoved =>
          rw [List.filter_cons_of_pos (by simp [hasUnitField, real, unmoved])]
          exact .cons (unitText?_of_claim claims kept) remaining

private theorem mem_claimsOf {instruction : Instruction} (member : instruction ∈ group)
    (claims : instruction.claim = .ok claim) : claim ∈ claimsOf group := by
  refine List.mem_filterMap.mpr ⟨instruction, member, ?_⟩
  rw [claims]
  rfl

/-- The claims of a group keep to the paths of their sides. -/
theorem routed_of_mem_claimsOf (member : claim ∈ claimsOf group) : claim.Routed := by
  obtain ⟨instruction, -, claims⟩ := List.mem_filterMap.mp member
  cases outcome : instruction.claim with
  | error fault =>
      rw [outcome] at claims
      cases claims
  | ok other =>
      rw [outcome] at claims
      cases claims
      exact routed_of_claim outcome

namespace Recognizer

/-- Every instruction of a bundle that is neither pseudo nor a move is printed with a unit
field. The fields of a bundle name different units, at most one of them ends in T1 and at
most one in T2, and each side has at most one with a cross, and none if a move of the
bundle goes to the side from the other side. -/
theorem pack_unitFields_distinct (positive : 0 < width) (recognizer : Recognizer)
    (region : List Instruction) :
    ∀ bundle ∈ (recognizer.pack width region).schedule.bundles,
      ∃ fields,
        List.Forall₂ (fun instruction field => instruction.unitText?.outcome = .ok (some field))
          (bundle.instructions.filter hasUnitField) fields ∧
        Distinct fields ∧
        ∀ side, ∀ field ∈ fields, isOn side field = true → hasCross field = true →
          ∀ instruction ∈ bundle.instructions, ¬ instruction.MovesAcross side := by
  intro bundle member
  rw [pack_schedule positive] at member
  have legal := legalPacket_of_mem_packed positive member
  have settled := resolved_of_mem_packed member
  refine ⟨(claimsOf bundle.instructions).filterMap Claim.unitField?,
    unitFields_of_resolved legal.resolves settled, ?_, ?_⟩
  · exact legal.claims.distinct_unitFields fun claim => routed_of_mem_claimsOf
  · intro side field listed own crossed instruction among across
    obtain ⟨claim, claimed, written⟩ := List.mem_filterMap.mp listed
    have path := Claim.path?_of_hasCross (routed_of_mem_claimsOf claimed) written own crossed
    have moves := across.claim_eq (legal.resolves instruction among)
    -- Both claim the data path into the side, so they would be one claim.
    have same := legal.claims.eq_of_path claimed (mem_claimsOf among moves) path rfl
    rw [same] at written
    cases written

/-- An addition and a load on side A that both read across. -/
def additionAndLoad : List Instruction := [.flexibleAddition .b, .loadAcross]

/-- Both issue in one cycle, one over a data path and the other over a memory path. -/
theorem pack_unitFields_distinct_additionAndLoad :
    0 < 8 ∧ ∀ bundle ∈ (Recognizer.pack {} 8 additionAndLoad).schedule.bundles,
      bundle.instructions.map (fun instruction => instruction.unitText?.outcome.toOption) =
          [some (some "L1X"), some (some "D1T2")] ∧
        ∃ fields,
          List.Forall₂ (fun instruction field => instruction.unitText?.outcome = .ok (some field))
            (bundle.instructions.filter hasUnitField) fields ∧ Distinct fields := by
  have positive : 0 < 8 := by decide
  refine ⟨positive, fun bundle member => ⟨?_, ?_⟩⟩
  · revert bundle
    decide
  · obtain ⟨fields, spelled, distinct, -⟩ :=
      pack_unitFields_distinct positive {} additionAndLoad bundle member
    exact ⟨fields, spelled, distinct⟩

end Recognizer

end VliwPack
