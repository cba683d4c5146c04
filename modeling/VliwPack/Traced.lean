import VliwPack.Event

/-! # Computations that report events

A `Traced` computation ends in a value or a fault and reports events on the way.
A `Routine` does so while it works on a state. A fault ends a computation; what
was reported and what was done to the state before it stays.
-/

namespace VliwPack

/-- A value or a fault, and the events reported on the way to it. -/
structure Traced (α : Type) where
  outcome : Except Fault α
  events : List Event

namespace Traced

/-- Goes on with the value of a computation, after its events. -/
def andThen {α β : Type} (first : Traced α) (next : α → Traced β) : Traced β :=
  match first.outcome with
  | .ok value => ⟨(next value).outcome, first.events ++ (next value).events⟩
  | .error fault => ⟨.error fault, first.events⟩

instance : Monad Traced where
  pure value := ⟨.ok value, []⟩
  bind := andThen

instance : MonadLift (Except Fault) Traced where
  monadLift outcome := ⟨outcome, []⟩

/-- A value alone reports nothing. -/
@[simp] theorem pure_eq {α : Type} (value : α) : (pure value : Traced α) = ⟨.ok value, []⟩ := rfl

/-- What follows a value reports its events after those before it. -/
@[simp] theorem ok_bind {α β : Type} (value : α) (events : List Event) (next : α → Traced β) :
    ((⟨.ok value, events⟩ : Traced α) >>= next) =
      ⟨(next value).outcome, events ++ (next value).events⟩ := rfl

instance : LawfulMonad Traced := LawfulMonad.mk' _
  (fun ⟨outcome, events⟩ => by cases outcome <;> simp [Functor.map, andThen])
  (fun _ _ => by simp)
  (fun ⟨outcome, events⟩ next last => by
    cases outcome with
    | error fault => rfl
    | ok value =>
        rcases result : next value with ⟨_ | _, later⟩ <;> simp [result, bind, andThen])

/-- Ends with a fault. -/
def fail {α : Type} (fault : Fault) : Traced α := ⟨.error fault, []⟩

/-- Reports an event. -/
def report (event : Event) : Traced Unit := ⟨.ok (), [event]⟩

end Traced

/-- What a routine leaves behind. -/
structure Trail (σ α : Type) extends Traced α where
  state : σ

/-- A computation that works on a state and reports events. -/
def Routine (σ α : Type) : Type := σ → Trail σ α

namespace Routine

/-- Goes on with the value of a routine, from the state it leaves and after its
events. -/
def andThen {σ α β : Type} (first : Routine σ α) (next : α → Routine σ β) : Routine σ β :=
  fun state =>
    match first state with
    | ⟨⟨.ok value, events⟩, state⟩ =>
        let rest := next value state
        ⟨⟨rest.outcome, events ++ rest.events⟩, rest.state⟩
    | ⟨⟨.error fault, events⟩, state⟩ => ⟨⟨.error fault, events⟩, state⟩

instance {σ : Type} : Monad (Routine σ) where
  pure value := fun state => ⟨⟨.ok value, []⟩, state⟩
  bind := andThen

instance {σ : Type} : MonadLift Traced (Routine σ) where
  monadLift traced := fun state => ⟨traced, state⟩

instance {σ : Type} : MonadStateOf σ (Routine σ) where
  get := fun state => ⟨⟨.ok state, []⟩, state⟩
  set state := fun _ => ⟨⟨.ok (), []⟩, state⟩
  modifyGet step := fun state => ⟨⟨.ok (step state).1, []⟩, (step state).2⟩

/-- A value alone leaves the state as it is and reports nothing. -/
@[simp] theorem pure_apply {σ α : Type} (value : α) (state : σ) :
    (pure value : Routine σ α) state = ⟨⟨.ok value, []⟩, state⟩ := rfl

/-- A traced computation leaves the state alone. -/
@[simp] theorem liftM_apply {σ α : Type} (traced : Traced α) (state : σ) :
    (liftM traced : Routine σ α) state = ⟨traced, state⟩ := rfl

/-- The state is read as it is. -/
@[simp] theorem get_apply {σ : Type} (state : σ) :
    (get : Routine σ σ) state = ⟨⟨.ok state, []⟩, state⟩ := rfl

/-- The state is replaced. -/
@[simp] theorem set_apply {σ : Type} (new state : σ) :
    (set new : Routine σ PUnit) state = ⟨⟨.ok (), []⟩, new⟩ := rfl

end Routine

end VliwPack
