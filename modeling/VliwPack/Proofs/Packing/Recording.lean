import Mathlib.Data.List.Induction
import VliwPack.Proofs.Packing.Announcement
import VliwPack.Proofs.Packing.Step

/-! # What a schedule records

Calls may come in any order. The schedule that they build announces itself by these very calls,
after a bundle in cycle 0 if they open with an instruction (`Schedule.calls_ofCalls`). Since a
schedule is determined by its announcement, what it records can be read off the calls
(`Schedule.ofCalls_records`).
-/

namespace VliwPack

namespace BundleCall

/-- The cycle that a call begins. -/
def begun? : BundleCall → Option Nat
  | begin cycle => some cycle
  | push _ => none

/-- The call pushes an instruction. -/
def isPush (call : BundleCall) : Bool := call.pushed?.isSome

/-- The beginning of the bundle that calls take for granted: one in cycle 0, if they open with an
instruction. -/
def implied (calls : List BundleCall) : List BundleCall :=
  if calls.head?.any isPush then [.begin 0] else []

/-- Pushes are the pushes of their instructions. -/
theorem map_push_filterMap_pushed? {calls : List BundleCall}
    (pushes : ∀ call ∈ calls, call.isPush = true) :
    (calls.filterMap pushed?).map push = calls := by
  induction calls with
  | nil => rfl
  | cons call rest ih =>
      obtain ⟨first, others⟩ := List.forall_mem_cons.mp pushes
      cases call with
      | begin cycle => cases first
      | push instruction => exact congrArg (push instruction :: ·) (ih others)

/-- The calls after the first pushes open with a beginning, if there are any. -/
theorem implied_dropWhile (calls : List BundleCall) : implied (calls.dropWhile isPush) = [] := by
  have begins := List.head?_dropWhile_not isPush calls
  unfold implied
  cases first : (calls.dropWhile isPush).head? with
  | none => rfl
  | some call =>
      rw [first] at begins
      simp [begins]

end BundleCall

namespace Schedule

open BundleCall (pushed? begun? isPush implied)

/-! ### The announcement of what calls build -/

/-- One more call is announced as it is, save that an instruction without a bundle gets one. -/
theorem calls_accept (schedule : Schedule) (call : BundleCall) :
    (schedule.accept call).calls =
      (if schedule.bundles = [] then implied [call] else []) ++ schedule.calls ++ [call] := by
  obtain ⟨bundles⟩ := schedule
  cases call with
  | begin cycle => simp [accept, calls, Bundle.calls, implied, isPush, pushed?]
  | push instruction =>
      rcases List.eq_nil_or_concat' bundles with rfl | ⟨before, last, rfl⟩
      · rfl
      · simp [accept, pushLast_append_singleton, calls, Bundle.calls]

/-- There is a bundle after any call. -/
theorem bundles_accept_ne_nil (schedule : Schedule) (call : BundleCall) :
    (schedule.accept call).bundles ≠ [] := by
  obtain ⟨bundles⟩ := schedule
  cases call with
  | begin cycle => simp [accept]
  | push instruction =>
      rcases List.eq_nil_or_concat' bundles with rfl | ⟨before, last, rfl⟩
      · exact List.cons_ne_nil _ _
      · simp [accept, pushLast_append_singleton]

private theorem ofCalls_append_singleton (before : List BundleCall) (call : BundleCall) :
    ofCalls (before ++ [call]) = (ofCalls before).accept call := by
  rw [ofCalls, List.foldl_append]
  rfl

/-- Without calls there are no bundles, and with calls there are. -/
theorem bundles_ofCalls_eq_nil_iff (calls : List BundleCall) :
    (ofCalls calls).bundles = [] ↔ calls = [] := by
  induction calls using List.reverseRecOn with
  | nil => exact ⟨fun _ => rfl, fun _ => rfl⟩
  | append_singleton before call _ =>
      rw [ofCalls_append_singleton]
      simp [bundles_accept_ne_nil]

/-- The schedule that calls build announces itself by these calls. -/
theorem calls_ofCalls (calls : List BundleCall) :
    (ofCalls calls).calls = implied calls ++ calls := by
  induction calls using List.reverseRecOn with
  | nil => rfl
  | append_singleton before call ih =>
      rw [ofCalls_append_singleton, calls_accept, ih]
      simp only [bundles_ofCalls_eq_nil_iff]
      cases before with
      | nil => simp [implied]
      | cons first rest =>
          rw [if_neg (List.cons_ne_nil first rest), List.nil_append, List.append_assoc]
          rfl

/-- Schedules that announce themselves alike are alike. -/
theorem calls_injective {first second : Schedule} (same : first.calls = second.calls) :
    first = second := by
  rw [← ofCalls_calls first, same, ofCalls_calls]

/-! ### What the announcement says -/

/-- A schedule announces its instructions. -/
theorem filterMap_pushed?_calls (schedule : Schedule) :
    schedule.calls.filterMap pushed? = schedule.instructions := by
  have one (bundle : Bundle) : bundle.calls.filterMap pushed? = bundle.instructions := by
    rw [Bundle.calls, List.filterMap_cons_none rfl, List.filterMap_map]
    exact List.filterMap_some
  rw [calls, List.filterMap_flatMap, instructions]
  exact congrArg (List.flatMap · schedule.bundles) (funext one)

/-- A schedule announces the cycles of its bundles. -/
theorem filterMap_begun?_calls (schedule : Schedule) :
    schedule.calls.filterMap begun? = schedule.bundles.map Bundle.cycle := by
  have one (bundle : Bundle) : bundle.calls.filterMap begun? = [bundle.cycle] := by
    have begins : begun? (.begin bundle.cycle) = some bundle.cycle := rfl
    rw [Bundle.calls, List.filterMap_cons_some begins, List.filterMap_map]
    simp [Function.comp_def, begun?]
  rw [calls, List.filterMap_flatMap, funext one, List.map_eq_flatMap]

/-- The bundle of a beginning holds what is pushed before the next one. -/
theorem bundles_ofCalls_append (before : List BundleCall) (cycle : Nat) (after : List BundleCall) :
    (ofCalls (before ++ .begin cycle :: after)).bundles =
      (ofCalls before).bundles ++ ⟨cycle, (after.takeWhile isPush).filterMap pushed?⟩ ::
        (ofCalls (after.dropWhile isPush)).bundles := by
  let cut : Schedule := ⟨(ofCalls before).bundles ++
    ⟨cycle, (after.takeWhile isPush).filterMap pushed?⟩ ::
      (ofCalls (after.dropWhile isPush)).bundles⟩
  suffices same : (ofCalls (before ++ .begin cycle :: after)).calls = cut.calls from
    congrArg bundles (calls_injective same)
  have opening : implied (before ++ .begin cycle :: after) = implied before := by
    cases before <;> rfl
  have pushes : (after.takeWhile isPush).all isPush = true := List.all_takeWhile
  have group := BundleCall.map_push_filterMap_pushed? (List.all_eq_true.mp pushes)
  have head := calls_ofCalls before
  have tail := calls_ofCalls (after.dropWhile isPush)
  rw [BundleCall.implied_dropWhile, List.nil_append] at tail
  rw [calls] at head tail
  rw [calls_ofCalls, opening, calls, List.flatMap_append, List.flatMap_cons, head, tail,
    Bundle.calls, group, List.cons_append, List.takeWhile_append_dropWhile, List.append_assoc]

/-- A bundle that calls take for granted may as well be begun. -/
theorem ofCalls_implied (calls : List BundleCall) :
    ofCalls (implied calls ++ calls) = ofCalls calls := by
  rw [← calls_ofCalls, ofCalls_calls]

/-- A schedule records the calls that build it, whatever they are. It holds the instructions that
are pushed, in order; its bundles are those that are begun, in order, after one in cycle 0 exactly
if the first call is a push; each bundle holds what is pushed before the next one is begun; and it
announces itself by these very calls, so that announcing it builds it again. -/
theorem ofCalls_records (calls : List BundleCall) :
    let schedule := ofCalls calls
    let pushed := calls.filterMap pushed?
    schedule.size = pushed.length ∧ (schedule.isEmpty = true ↔ pushed = []) ∧
      schedule.instructions = pushed ∧
      schedule.bundles.map Bundle.cycle =
        (if calls.head?.any isPush then [0] else []) ++ calls.filterMap begun? ∧
      (calls.head?.any isPush = true →
        schedule.bundles = ⟨0, (calls.takeWhile isPush).filterMap pushed?⟩ ::
          (ofCalls (calls.dropWhile isPush)).bundles) ∧
      (∀ before cycle after, calls = before ++ .begin cycle :: after →
        schedule.bundles =
          (ofCalls before).bundles ++ ⟨cycle, (after.takeWhile isPush).filterMap pushed?⟩ ::
            (ofCalls (after.dropWhile isPush)).bundles) ∧
      schedule.calls = (if calls.head?.any isPush then [.begin 0] else []) ++ calls ∧
      ofCalls schedule.calls = schedule := by
  intro schedule pushed
  have announced : schedule.calls = implied calls ++ calls := calls_ofCalls calls
  have instructions : schedule.instructions = pushed := by
    rw [← filterMap_pushed?_calls, announced, List.filterMap_append]
    unfold implied
    split <;> rfl
  have size : schedule.size = pushed.length := congrArg List.length instructions
  refine ⟨size, ?_, instructions, ?_, fun opens => ?_, ?_, announced, ofCalls_calls schedule⟩
  · rw [isEmpty, beq_iff_eq, size, List.length_eq_zero_iff]
  · rw [← filterMap_begun?_calls, announced, List.filterMap_append]
    unfold implied
    split <;> rfl
  · have granted : implied calls = [.begin 0] := if_pos opens
    change (ofCalls calls).bundles = _
    rw [← ofCalls_implied, granted]
    exact bundles_ofCalls_append [] 0 calls
  · rintro before cycle after rfl
    exact bundles_ofCalls_append before cycle after

/-- The first instruction has no bundle begun for it, and the second bundle stays empty. -/
theorem ofCalls_records_pushFirst :
    let nop : Instruction := ⟨{ name := "nop" }, [], none⟩
    let calls : List BundleCall := [.push nop, .begin 3, .begin 1, .push nop, .push nop]
    (ofCalls calls).bundles = [⟨0, [nop]⟩, ⟨3, []⟩, ⟨1, [nop, nop]⟩] ∧
      (ofCalls calls).bundles.head? = some ⟨0, [nop]⟩ ∧
      (ofCalls calls).calls = .begin 0 :: calls := by
  intro nop calls
  obtain ⟨-, -, -, -, opening, begun, announced, -⟩ := ofCalls_records calls
  have split : calls = [.push nop, .begin 3] ++ .begin 1 :: [.push nop, .push nop] := rfl
  exact ⟨(begun _ _ _ split).trans rfl, congrArg List.head? (opening rfl), announced⟩

end Schedule

end VliwPack
