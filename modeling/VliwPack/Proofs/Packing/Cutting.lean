import Mathlib.Data.List.Forall2

/-! # Cutting a list into groups

A list is cut in order into groups that are not empty and of which each fits
(`Cutting`). The greedy cutting makes each group as long as it fits (`greedyCut`).
Where whatever is within a group that fits fits too, the greedy cutting is never
behind another: the group in which it has an element is no later than the one in
which the other has it (`Cutting.groupNumbers_greedyCut_le`), so it has no more groups
(`Cutting.length_greedyCut_le`).
-/

namespace VliwPack

variable {α : Type} {fits : List α → Prop} {list rest group : List α} {groups : List (List α)}
  {element : α}

/-- The groups cut the list in order, and all of them fit. -/
structure Cutting (fits : List α → Prop) (list : List α) (groups : List (List α)) : Prop where
  /-- The groups are the list, in order. -/
  covers : groups.flatten = list
  /-- No group is empty. -/
  nonempty : ∀ group ∈ groups, group ≠ []
  /-- Every group fits. -/
  fit : ∀ group ∈ groups, fits group

/-- What is within a group that fits, fits. -/
def Hereditary (fits : List α → Prop) : Prop :=
  ∀ ⦃group kept : List α⦄, fits group → kept <:+: group → fits kept

/-- A cutting is a first group and a cutting of the rest. -/
theorem Cutting.of_cons (cutting : Cutting fits list (group :: groups)) :
    list = group ++ groups.flatten ∧ fits group ∧ Cutting fits groups.flatten groups := by
  obtain ⟨-, nonempty⟩ := List.forall_mem_cons.mp cutting.nonempty
  obtain ⟨here, there⟩ := List.forall_mem_cons.mp cutting.fit
  exact ⟨cutting.covers.symm, here, rfl, nonempty, there⟩

/-- For each element of the groups, in order, the number of its group. -/
def groupNumbers (first : Nat) : List (List α) → List Nat
  | [] => []
  | group :: later => List.replicate group.length first ++ groupNumbers (first + 1) later

/-- What is done to the elements does not change the numbers. -/
theorem groupNumbers_map {β : Type} (first : Nat) (groups : List (List α)) (change : α → β) :
    groupNumbers first (groups.map (List.map change)) = groupNumbers first groups := by
  induction groups generalizing first with
  | nil => rfl
  | cons group later ih => simp [groupNumbers, ih]

section Greedy

variable (fits) [DecidablePred fits]

/-- Cuts the rest of a list, with the last group begun. -/
def greedyCutAfter (group : List α) : List α → List (List α)
  | [] => [group]
  | element :: rest =>
      if fits (group ++ [element]) then greedyCutAfter (group ++ [element]) rest
      else group :: greedyCutAfter [element] rest

/-- Cuts a list into groups, each as long as it fits. -/
def greedyCut : List α → List (List α)
  | [] => []
  | element :: rest => greedyCutAfter fits [element] rest

private theorem flatten_greedyCutAfter (group rest : List α) :
    (greedyCutAfter fits group rest).flatten = group ++ rest := by
  induction rest generalizing group with
  | nil => rw [greedyCutAfter, List.flatten_singleton, List.append_nil]
  | cons element rest ih =>
      rw [greedyCutAfter]
      split
      · rw [ih, List.append_assoc, List.singleton_append]
      · rw [List.flatten_cons, ih, List.singleton_append]

/-- Cutting loses and moves nothing. -/
theorem flatten_greedyCut (list : List α) : (greedyCut fits list).flatten = list := by
  cases list with
  | nil => rfl
  | cons element rest => exact flatten_greedyCutAfter fits [element] rest

end Greedy

/-! ### The greedy cutting is one -/

section Validity

variable [DecidablePred fits]

/-- What is cut off fits, and so does what goes on from a group that fits. -/
theorem cutting_greedyCutAfter (single : ∀ element ∈ rest, fits [element])
    (nonempty : group ≠ []) (fit : fits group) :
    Cutting fits (group ++ rest) (greedyCutAfter fits group rest) := by
  refine ⟨flatten_greedyCutAfter fits group rest, ?_, ?_⟩
  · clear single fit
    induction rest generalizing group with
    | nil => exact List.forall_mem_singleton.mpr nonempty
    | cons element rest ih =>
        rw [greedyCutAfter]
        split
        · exact ih (by simp)
        · exact List.forall_mem_cons.mpr ⟨nonempty, ih (List.cons_ne_nil element [])⟩
  · clear nonempty
    induction rest generalizing group with
    | nil => exact List.forall_mem_singleton.mpr fit
    | cons element rest ih =>
        obtain ⟨alone, single_rest⟩ := List.forall_mem_cons.mp single
        rw [greedyCutAfter]
        split
        next joins => exact ih single_rest joins
        next => exact List.forall_mem_cons.mpr ⟨fit, ih single_rest alone⟩

/-- The greedy cutting is a cutting if every element fits by itself. -/
theorem cutting_greedyCut (single : ∀ element ∈ list, fits [element]) :
    Cutting fits list (greedyCut fits list) := by
  cases list with
  | nil => exact ⟨rfl, by simp [greedyCut], by simp [greedyCut]⟩
  | cons element rest =>
      exact cutting_greedyCutAfter
        (fun other member => single other (List.mem_cons_of_mem _ member))
        (List.cons_ne_nil element []) (single element List.mem_cons_self)

/-- A group that the greedy cutting has begun is the first of its groups, and what it leaves
of the list is cut as if nothing stood before it. -/
theorem exists_greedyCutAfter_eq_cons (fits : List α → Prop) [DecidablePred fits]
    (group rest : List α) :
    ∃ joined left, rest = joined ++ left ∧
      greedyCutAfter fits group rest = (group ++ joined) :: greedyCut fits left := by
  induction rest generalizing group with
  | nil => exact ⟨[], [], rfl, by rw [greedyCutAfter, List.append_nil, greedyCut]⟩
  | cons element rest ih =>
      by_cases joins : fits (group ++ [element])
      · obtain ⟨joined, left, whole, cut⟩ := ih (group ++ [element])
        refine ⟨element :: joined, left, by rw [whole, List.cons_append], ?_⟩
        rw [greedyCutAfter, if_pos joins, cut, List.append_assoc, List.singleton_append]
      · refine ⟨[], element :: rest, rfl, ?_⟩
        rw [greedyCutAfter, if_neg joins, List.append_nil, greedyCut]

/-- Every group after the first begins with an element that did not fit a group before. -/
theorem exists_first_of_mem_tail_greedyCutAfter (single : ∀ element ∈ rest, fits [element])
    (fit : fits group) {part : List α} (member : part ∈ (greedyCutAfter fits group rest).tail) :
    ∃ previous element joined,
      part = element :: joined ∧ fits previous ∧ ¬ fits (previous ++ [element]) := by
  induction rest generalizing group with
  | nil => cases member
  | cons element rest ih =>
      obtain ⟨alone, single_rest⟩ := List.forall_mem_cons.mp single
      rw [greedyCutAfter] at member
      by_cases joins : fits (group ++ [element])
      · rw [if_pos joins] at member
        exact ih single_rest joins member
      · rw [if_neg joins, List.tail_cons] at member
        obtain ⟨joined, left, -, cut⟩ := exists_greedyCutAfter_eq_cons fits [element] rest
        rw [cut] at member
        rcases List.mem_cons.mp member with rfl | beyond
        · exact ⟨group, element, joined, rfl, fit, joins⟩
        · apply ih single_rest alone
          rwa [cut]

/-- A group after the first begins with an element that did not fit the group before. -/
theorem exists_first_of_mem_tail_greedyCut (single : ∀ element ∈ list, fits [element])
    {part : List α} (member : part ∈ (greedyCut fits list).tail) :
    ∃ previous element joined,
      part = element :: joined ∧ fits previous ∧ ¬ fits (previous ++ [element]) := by
  cases list with
  | nil => cases member
  | cons element rest =>
      obtain ⟨alone, single_rest⟩ := List.forall_mem_cons.mp single
      exact exists_first_of_mem_tail_greedyCutAfter single_rest alone member

end Validity

/-! ### The greedy cutting of what is left -/

section Rest

variable (fits) [DecidablePred fits]

/-- The greedy cutting begins anew with each group: the groups from any one on are the
greedy cutting of the elements in them. -/
theorem greedyCut_flatten_drop (list : List α) (skipped : Nat) :
    greedyCut fits ((greedyCut fits list).drop skipped).flatten =
      (greedyCut fits list).drop skipped := by
  induction skipped generalizing list with
  | zero => rw [List.drop_zero, flatten_greedyCut]
  | succ skipped ih =>
      cases list with
      | nil => rw [greedyCut, List.drop_nil, List.flatten_nil, greedyCut]
      | cons element rest =>
          obtain ⟨joined, left, -, cut⟩ := exists_greedyCutAfter_eq_cons fits [element] rest
          rw [greedyCut, cut, List.drop_succ_cons]
          exact ih left

end Rest

section Change

variable {β : Type} {fitsAfter : List β → Prop} [DecidablePred fits] [DecidablePred fitsAfter]
  {change : α → β}

/-- Elements that fit alike are cut alike. -/
theorem greedyCutAfter_map (same : ∀ group, fitsAfter (group.map change) ↔ fits group)
    (group rest : List α) :
    greedyCutAfter fitsAfter (group.map change) (rest.map change) =
      (greedyCutAfter fits group rest).map (List.map change) := by
  induction rest generalizing group with
  | nil => rfl
  | cons element rest ih =>
      have longer := ih (group ++ [element])
      have anew := ih [element]
      have joins := same (group ++ [element])
      rw [List.map_append] at longer joins
      by_cases fit : fits (group ++ [element])
      · rw [greedyCutAfter, if_pos fit, List.map_cons, greedyCutAfter]
        rw [List.map_singleton] at longer joins
        rw [if_pos (joins.mpr fit), longer]
      · rw [greedyCutAfter, if_neg fit, List.map_cons, greedyCutAfter]
        rw [List.map_singleton] at joins
        rw [if_neg (mt joins.mp fit), List.map_cons]
        exact congrArg _ anew

/-- Elements that are changed are cut as before if the change does not matter to what
fits. -/
theorem greedyCut_map (same : ∀ group, fitsAfter (group.map change) ↔ fits group)
    (list : List α) :
    greedyCut fitsAfter (list.map change) = (greedyCut fits list).map (List.map change) := by
  cases list with
  | nil => rfl
  | cons element rest => exact greedyCutAfter_map same [element] rest

end Change

/-! ### No cutting is ahead of it -/

/-- How far a list has been cut: the last group so far, and its number. -/
structure Front (α : Type) where
  number : Nat
  group : List α

namespace Front

variable {front other : Front α}

/-- The next element joins the last group if it fits, and begins another if not. -/
def advance (fits : List α → Prop) [DecidablePred fits] (front : Front α) (element : α) :
    Front α :=
  if fits (front.group ++ [element]) then ⟨front.number, front.group ++ [element]⟩
  else ⟨front.number + 1, [element]⟩

/-- The numbers of the groups of the elements to come. -/
def numbers (fits : List α → Prop) [DecidablePred fits] (front : Front α) : List α → List Nat
  | [] => []
  | element :: rest =>
      (front.advance fits element).number :: (front.advance fits element).numbers fits rest

private theorem groupNumbers_greedyCutAfter (fits : List α → Prop) [DecidablePred fits]
    (front : Front α) (rest : List α) :
    groupNumbers front.number (greedyCutAfter fits front.group rest) =
      List.replicate front.group.length front.number ++ front.numbers fits rest := by
  induction rest generalizing front with
  | nil => simp [greedyCutAfter, groupNumbers, numbers]
  | cons element rest ih =>
      by_cases joins : fits (front.group ++ [element])
      · have whole := ih ⟨front.number, front.group ++ [element]⟩
        rw [greedyCutAfter, if_pos joins, whole, numbers, advance, if_pos joins]
        simp [List.replicate_add]
      · have later := ih ⟨front.number + 1, [element]⟩
        rw [greedyCutAfter, if_neg joins, groupNumbers, later, numbers, advance, if_neg joins]
        simp

/-- The front is in an earlier group than another, or in the same one with no more
elements in it. -/
def Ahead (front other : Front α) : Prop :=
  front.number < other.number ∨ front.number = other.number ∧ front.group <:+ other.group

private theorem Ahead.number_le (ahead : front.Ahead other) : front.number ≤ other.number := by
  rcases ahead with earlier | ⟨same, _⟩
  · exact Nat.le_of_lt earlier
  · exact Nat.le_of_eq same

variable [DecidablePred fits]

/-- A front stays ahead of another whose group the next element joins. -/
theorem Ahead.advance_within (hereditary : Hereditary fits)
    (ahead : front.Ahead other) (fit : fits (other.group ++ [element])) :
    (front.advance fits element).Ahead ⟨other.number, other.group ++ [element]⟩ := by
  unfold Front.advance
  rcases ahead with earlier | ⟨same, suffix⟩
  · split
    · exact Or.inl earlier
    · rcases Nat.lt_or_eq_of_le (Nat.succ_le_of_lt earlier) with before | reached
      · exact Or.inl before
      · exact Or.inr ⟨reached, List.suffix_append _ _⟩
  · -- In the same group: the front's is within the other's, so what the other takes fits.
    have within : front.group ++ [element] <:+ other.group ++ [element] := by
      obtain ⟨before, whole⟩ := suffix
      exact ⟨before, by rw [← whole, List.append_assoc]⟩
    rw [if_pos (hereditary fit within.isInfix)]
    exact Or.inr ⟨same, within⟩

/-- A front stays ahead of another for which the next element begins a group. -/
theorem Ahead.advance_across (ahead : front.Ahead other) :
    (front.advance fits element).Ahead ⟨other.number + 1, [element]⟩ := by
  have reached := ahead.number_le
  unfold Front.advance
  split
  · exact Or.inl (Nat.lt_succ_of_le reached)
  · rcases Nat.lt_or_eq_of_le reached with before | same
    · exact Or.inl (Nat.succ_lt_succ before)
    · exact Or.inr ⟨congrArg Nat.succ same, List.suffix_refl _⟩

/-- A front that is ahead stays ahead over what is left of the other's group. -/
theorem Ahead.numbers_append_le
    (hereditary : Hereditary fits)
    (ahead : front.Ahead other) {pending : List α} (fit : fits (other.group ++ pending))
    {later : List Nat}
    (beyond : ∀ {reached : Front α}, reached.Ahead ⟨other.number, other.group ++ pending⟩ →
      List.Forall₂ (· ≤ ·) (reached.numbers fits rest) later) :
    List.Forall₂ (· ≤ ·) (front.numbers fits (pending ++ rest))
      (List.replicate pending.length other.number ++ later) := by
  induction pending generalizing front other with
  | nil => exact beyond (by rwa [List.append_nil])
  | cons element pending ih =>
      rw [List.append_cons] at fit
      have joined : fits (other.group ++ [element]) :=
        hereditary fit (List.prefix_append _ _).isInfix
      have next := ahead.advance_within hereditary joined
      have remaining := ih next fit fun last => beyond (by rw [List.append_cons]; exact last)
      exact List.Forall₂.cons next.number_le remaining

/-- A front that is ahead stays ahead over the other's later groups. -/
theorem Ahead.numbers_le (hereditary : Hereditary fits)
    (ahead : front.Ahead other) (cutting : Cutting fits rest groups) :
    List.Forall₂ (· ≤ ·) (front.numbers fits rest) (groupNumbers (other.number + 1) groups) := by
  -- Each of the other's groups is entered by `advance_across`, and the rest of it is passed
  -- by `numbers_append_le`.
  induction groups generalizing front other rest with
  | nil =>
      rw [← cutting.covers]
      exact List.Forall₂.nil
  | cons group later ih =>
      obtain ⟨whole, fit, remaining⟩ := cutting.of_cons
      cases group with
      | nil => exact absurd rfl (cutting.nonempty [] List.mem_cons_self)
      | cons element pending =>
          rw [whole]
          have next : (front.advance fits element).Ahead ⟨other.number + 1, [element]⟩ :=
            ahead.advance_across
          refine List.Forall₂.cons next.number_le ?_
          exact next.numbers_append_le hereditary fit fun last => ih last remaining

end Front

namespace Cutting

/-- The greedy cutting has no element in a later group than another cutting has. -/
theorem groupNumbers_greedyCut_le [DecidablePred fits]
    (hereditary : Hereditary fits)
    (cutting : Cutting fits list groups) :
    List.Forall₂ (· ≤ ·) (groupNumbers 0 (greedyCut fits list)) (groupNumbers 0 groups) := by
  cases groups with
  | nil =>
      rw [← cutting.covers]
      exact List.Forall₂.nil
  | cons group later =>
      obtain ⟨whole, fit, remaining⟩ := cutting.of_cons
      cases group with
      | nil => exact absurd rfl (cutting.nonempty [] List.mem_cons_self)
      | cons element pending =>
          -- Both cuttings begin their first group with the first element.
          have start : Front.Ahead (α := α) ⟨0, [element]⟩ ⟨0, [element]⟩ :=
            Or.inr ⟨rfl, List.suffix_refl _⟩
          rw [whole]
          have numbers :=
            Front.groupNumbers_greedyCutAfter fits ⟨0, [element]⟩ (pending ++ later.flatten)
          have behind := start.numbers_append_le hereditary fit fun last =>
            last.numbers_le hereditary remaining
          exact numbers ▸ List.Forall₂.cons (Nat.le_refl 0) behind

private theorem lt_of_mem_groupNumbers {first number : Nat}
    (member : number ∈ groupNumbers first groups) :
    number < first + groups.length := by
  induction groups generalizing first with
  | nil => cases member
  | cons group later ih =>
      rw [List.length_cons]
      rcases List.mem_append.mp member with here | there
      · have same := List.eq_of_mem_replicate here
        omega
      · have bound := ih there
        omega

/-- The last group of a cutting has an element. -/
theorem last_mem_groupNumbers (first : Nat) (nonempty : ∀ part ∈ group :: groups, part ≠ []) :
    first + groups.length ∈ groupNumbers first (group :: groups) := by
  induction groups generalizing first group with
  | nil =>
      have some : group ≠ [] := nonempty group List.mem_cons_self
      simpa [groupNumbers] using some
  | cons next later ih =>
      obtain ⟨-, there⟩ := List.forall_mem_cons.mp nonempty
      have last := ih (first + 1) there
      rw [Nat.add_right_comm, Nat.add_assoc] at last
      exact List.mem_append_right _ last

/-- The greedy cutting has no more groups than another cutting. -/
theorem length_greedyCut_le [DecidablePred fits] (hereditary : Hereditary fits)
    (single : ∀ element ∈ list, fits [element]) (cutting : Cutting fits list groups) :
    (greedyCut fits list).length ≤ groups.length := by
  have nonempty := (cutting_greedyCut single).nonempty
  have numbers := cutting.groupNumbers_greedyCut_le hereditary
  cases greedy : greedyCut fits list with
  | nil => exact Nat.zero_le _
  | cons group later =>
      rw [greedy] at nonempty numbers
      have last : 0 + later.length ∈ groupNumbers 0 (group :: later) :=
        last_mem_groupNumbers 0 nonempty
      obtain ⟨position, here, same⟩ := List.getElem_of_mem last
      have there : position < (groupNumbers 0 groups).length := numbers.length_eq ▸ here
      have bound := numbers.get here there
      have within := lt_of_mem_groupNumbers (List.get_mem (groupNumbers 0 groups) ⟨position, there⟩)
      rw [List.get_eq_getElem, same] at bound
      rw [List.length_cons]
      omega

/-- If what stands in a group fits in any selection, then a selection from the list has a
cutting with no more groups. -/
theorem exists_of_sublist {fitsAfter : List α → Prop} {kept : List α}
    (cutting : Cutting fits list groups)
    (within : ∀ ⦃group part : List α⦄, fits group → part.Sublist group → fitsAfter part)
    (among : kept.Sublist list) :
    ∃ parts, Cutting fitsAfter kept parts ∧ parts.length ≤ groups.length := by
  -- By induction on the groups: of each one what is kept is a group again, unless it is empty.
  induction groups generalizing list kept with
  | nil =>
      have empty : kept = [] := by
        rw [← cutting.covers] at among
        exact List.sublist_nil.mp among
      exact ⟨[], ⟨empty.symm, by simp, by simp⟩, Nat.le_refl 0⟩
  | cons group later ih =>
      obtain ⟨whole, fit, remaining⟩ := cutting.of_cons
      rw [whole] at among
      obtain ⟨here, there, rfl, partly, beyond⟩ := List.sublist_append_iff.mp among
      obtain ⟨parts, cut, fewer⟩ := ih remaining beyond
      by_cases nothing : here = []
      · refine ⟨parts, ?_, Nat.le_succ_of_le fewer⟩
        rwa [nothing, List.nil_append]
      · refine ⟨here :: parts, ⟨?_, ?_, ?_⟩, Nat.succ_le_succ fewer⟩
        · rw [List.flatten_cons, cut.covers]
        · exact List.forall_mem_cons.mpr ⟨nothing, cut.nonempty⟩
        · exact List.forall_mem_cons.mpr ⟨within fit partly, cut.fit⟩

end Cutting

end VliwPack
