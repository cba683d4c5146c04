import VliwPack.Traced

/-! # Running a routine step by step

A routine is run by rewriting: `Routine.bind_apply` hands the trail of the first
step to the rest, and the rest goes on from a value (`Trail.andThen_ok`) or is
left out after a fault (`Trail.andThen_error`). With these rules and one equation
for each step, `simp` computes the trail of a whole routine.
-/

namespace VliwPack

variable {σ α β : Type}

namespace Traced

/-- A report ends in a value. -/
@[simp] theorem report_eq (event : Event) : report event = ⟨.ok (), [event]⟩ := rfl

/-- A step is taken on the value of a computation. -/
@[simp] theorem map_ok (step : α → β) (value : α) (events : List Event) :
    step <$> (⟨.ok value, events⟩ : Traced α) = ⟨.ok (step value), events⟩ := by
  simp [Functor.map, andThen]

/-- No step is taken on a fault. -/
@[simp] theorem map_error (step : α → β) (fault : Fault) (events : List Event) :
    step <$> (⟨.error fault, events⟩ : Traced α) = ⟨.error fault, events⟩ := rfl

/-- A step is taken on the outcome. -/
theorem outcome_map (step : α → β) (traced : Traced α) :
    (step <$> traced).outcome = traced.outcome.map step := by
  rcases traced with ⟨fault | value, events⟩ <;> rfl

/-- A value after a step comes from a value before it. -/
theorem outcome_map_eq_ok_iff {step : α → β} {outcome : Except Fault α} {result : β} :
    outcome.map step = .ok result ↔ ∃ value, outcome = .ok value ∧ step value = result := by
  cases outcome <;> simp [Except.map]

/-- A fault after a step was there before it. -/
theorem outcome_map_eq_error_iff {step : α → β} {outcome : Except Fault α} {fault : Fault} :
    outcome.map step = .error fault ↔ outcome = .error fault := by
  cases outcome <;> simp [Except.map]

end Traced

namespace Trail

/-- A trail with events before its own. -/
def after (events : List Event) (trail : Trail σ α) : Trail σ α :=
  ⟨⟨trail.outcome, events ++ trail.events⟩, trail.state⟩

/-- Goes on with the value of a trail, from the state it leaves. -/
def andThen (trail : Trail σ α) (next : α → Routine σ β) : Trail σ β :=
  match trail with
  | ⟨⟨.ok value, events⟩, state⟩ => (next value state).after events
  | ⟨⟨.error fault, events⟩, state⟩ => ⟨⟨.error fault, events⟩, state⟩

/-- Events before a trail come first. -/
@[simp] theorem after_mk (events later : List Event) (outcome : Except Fault α) (state : σ) :
    after events ⟨⟨outcome, later⟩, state⟩ = ⟨⟨outcome, events ++ later⟩, state⟩ := rfl

/-- No events before change nothing. -/
@[simp] theorem after_nil (trail : Trail σ α) : after [] trail = trail := rfl

/-- Events before may be put before in parts. -/
@[simp] theorem after_after (first second : List Event) (trail : Trail σ α) :
    after first (after second trail) = after (first ++ second) trail := by
  simp only [after, List.append_assoc]

/-- A value is handed on. -/
@[simp] theorem andThen_ok (value : α) (events : List Event) (state : σ)
    (next : α → Routine σ β) :
    andThen ⟨⟨.ok value, events⟩, state⟩ next = (next value state).after events := rfl

/-- Nothing comes after a fault. -/
@[simp] theorem andThen_error (fault : Fault) (events : List Event) (state : σ)
    (next : α → Routine σ β) :
    andThen ⟨⟨.error fault, events⟩, state⟩ next = ⟨⟨.error fault, events⟩, state⟩ := rfl

end Trail

namespace Routine

/-- What follows a step starts from the trail the step leaves. -/
theorem bind_apply (first : Routine σ α) (next : α → Routine σ β) (state : σ) :
    (first >>= next) state = (first state).andThen next := rfl

/-- An outcome without events leaves the state alone. -/
@[simp] theorem liftM_except_apply (outcome : Except Fault α) (state : σ) :
    (liftM outcome : Routine σ α) state = ⟨⟨outcome, []⟩, state⟩ := rfl

/-- A step on the state reports nothing. -/
@[simp] theorem modify_apply (step : σ → σ) (state : σ) :
    (modify step : Routine σ PUnit) state = ⟨⟨.ok (), []⟩, step state⟩ := rfl

end Routine

/-! ### The values on the way -/

/-- A computation that ends in a value has passed through a value of its first step. -/
theorem Traced.exists_of_bind_ok {first : Traced α} {next : α → Traced β} {value : β}
    (ends : (first >>= next).outcome = .ok value) :
    ∃ middle, first.outcome = .ok middle ∧ (next middle).outcome = .ok value := by
  obtain ⟨_ | middle, events⟩ := first
  · cases ends
  · exact ⟨middle, rfl, ends⟩

/-- An outcome that is a value has come through a value of its first step. -/
theorem exists_of_bind_ok {first : Except Fault α} {next : α → Except Fault β} {value : β}
    (ends : (first >>= next) = .ok value) :
    ∃ middle, first = .ok middle ∧ next middle = .ok value := by
  cases first with
  | error fault => cases ends
  | ok middle => exact ⟨middle, rfl, ends⟩

/-- Every value of a list of computations is that of one of them. -/
theorem exists_of_mem_mapM {step : α → Except Fault β} {list : List α} {values : List β}
    (ends : list.mapM step = .ok values) {value : β} (member : value ∈ values) :
    ∃ element ∈ list, step element = .ok value := by
  induction list generalizing values with
  | nil =>
      cases ends
      cases member
  | cons element rest ih =>
      rw [List.mapM_cons] at ends
      obtain ⟨first, here, ends⟩ := exists_of_bind_ok ends
      obtain ⟨later, there, ends⟩ := exists_of_bind_ok ends
      cases ends
      rcases List.mem_cons.mp member with rfl | member
      · exact ⟨element, List.mem_cons_self, here⟩
      · obtain ⟨other, among, gives⟩ := ih there member
        exact ⟨other, List.mem_cons_of_mem element among, gives⟩

end VliwPack
