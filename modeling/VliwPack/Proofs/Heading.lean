import VliwPack.Event

/-! # What events are about

Every event has a heading, and its message tells which: the messages of two headings are
never alike (`Event.heading_eq_iff`). So the events under a heading can be counted by their
messages (`Event.tally_eq_countP_message`).
-/

namespace VliwPack

/-- What an event tells, whichever instruction or claim it is about. -/
inductive Heading where
  /-- How the operands of an instruction were read. -/
  | reading
  /-- A path bit was not written, since the instruction is fixed. -/
  | refusal
  /-- A path bit was changed. -/
  | pathBit
  /-- A claim was found to have a conflict. -/
  | conflict
  /-- A claim was found to have none. -/
  | clearance
  | classification
  | booking
  | advance
  /-- A pseudo instruction was placed. -/
  | pseudo
  /-- A cycle was closed because of the issue width. -/
  | width
  /-- An instruction that takes a slot was placed. -/
  | placement
  | printing
  | scheduled
  deriving DecidableEq

namespace Heading

/-- All headings. -/
def all : List Heading :=
  [reading, refusal, pathBit, conflict, clearance, classification, booking, advance, pseudo,
    width, placement, printing, scheduled]

/-- Every heading is listed. -/
theorem mem_all (heading : Heading) : heading ∈ all := by cases heading <;> decide

end Heading

/-- The reports of all conflicts. -/
def Conflict.messages : List String :=
  FunctionalUnit.all.map (message <| .unitBusy ·) ++ Side.all.map (message <| .moveBudget ·) ++
    CrossPath.all.map (message <| .crossPathBusy ·)

/-- The message of a conflict is listed. -/
theorem Conflict.message_mem (conflict : Conflict) : conflict.message ∈ messages := by
  unfold messages
  rw [List.mem_append, List.mem_append]
  cases conflict with
  | unitBusy unit => exact .inl (.inl (List.mem_map_of_mem unit.mem_all))
  | movePressure unit => exact .inl (.inl (List.mem_map_of_mem unit.mem_all))
  | moveBudget side => exact .inl (.inr (List.mem_map_of_mem side.mem_all))
  | crossPathBusy path => exact .inr (List.mem_map_of_mem path.mem_all)

/-- The messages of the events under a heading. -/
def Heading.messages : Heading → List String
  | reading => ["operand side differs from previous", "x-resource use for fixed op", "mv sides"]
  | refusal => ["cannot set XPATH, fixed instruction"]
  | pathBit => ["XPATH set to: 0", "XPATH set to: 1"]
  | conflict => Conflict.messages
  | clearance => ["--no hazard"]
  | classification => ["classify"]
  | booking => ["--emit"]
  | advance => ["--advance"]
  | pseudo => ["pseudo"]
  | width => ["issue width reached"]
  | placement => ["booked"]
  | printing => ["print bundle"]
  | scheduled => ["scheduled"]

/-- No message stands under two headings. -/
theorem Heading.eq_of_mem_messages {first second : Heading} {message : String}
    (here : message ∈ first.messages) (there : message ∈ second.messages) : first = second := by
  have apart : ∀ first ∈ all, ∀ second ∈ all, ∀ message ∈ first.messages,
      message ∈ second.messages → first = second := by
    decide +kernel
  exact apart first first.mem_all second second.mem_all message here there

namespace Event

/-- The heading of an event. -/
def heading : Event → Heading
  | operandSideDiffers .. | dataPathNeeded .. | moveSides .. => .reading
  | pathBitRefused .. => .refusal
  | pathBitSet .. => .pathBit
  | checked (some _) => .conflict
  | checked none => .clearance
  | classified .. => .classification
  | booked .. => .booking
  | advanced => .advance
  | pseudoPlaced .. => .pseudo
  | widthReached .. => .width
  | placed .. => .placement
  | printing .. => .printing
  | scheduled .. => .scheduled

private theorem message_mem_messages (event : Event) : event.message ∈ event.heading.messages := by
  cases event with
  | checked verdict =>
      cases verdict with
      | none => exact List.mem_singleton_self _
      | some conflict => exact conflict.message_mem
  | pathBitSet mnemonic bit => cases bit <;> simp [message, heading, Heading.messages]
  | operandSideDiffers | dataPathNeeded | moveSides =>
      simp [message, heading, Heading.messages]
  | pathBitRefused | classified | booked | advanced | pseudoPlaced | widthReached | placed
  | printing | scheduled => exact List.mem_singleton_self _

/-- The message of an event tells its heading. -/
theorem heading_eq_iff (event : Event) (heading : Heading) :
    event.heading = heading ↔ event.message ∈ heading.messages := by
  constructor
  · rintro rfl
    exact event.message_mem_messages
  · exact Heading.eq_of_mem_messages event.message_mem_messages

/-- The number of events under a heading. -/
def tally (events : List Event) (heading : Heading) : Nat :=
  events.countP (·.heading = heading)

/-- Without events nothing is tallied. -/
@[simp] theorem tally_nil (heading : Heading) : tally [] heading = 0 := rfl

/-- An event is tallied under its heading. -/
@[simp] theorem tally_cons (event : Event) (events : List Event) (heading : Heading) :
    tally (event :: events) heading =
      tally events heading + if event.heading = heading then 1 else 0 := by
  simp only [tally, List.countP_cons, decide_eq_true_eq]

/-- Events are tallied part by part. -/
@[simp] theorem tally_append (first second : List Event) (heading : Heading) :
    tally (first ++ second) heading = tally first heading + tally second heading :=
  List.countP_append

/-- Events under a heading are counted by their messages. -/
theorem tally_eq_countP_message (events : List Event) (heading : Heading) :
    tally events heading = (events.map message).countP (· ∈ heading.messages) := by
  rw [tally, List.countP_map]
  apply List.countP_congr
  intro event _
  simp only [Function.comp_apply, decide_eq_true_eq, heading_eq_iff]

/-- Where a heading has one message only, that message is counted. -/
theorem tally_eq_count_message (events : List Event) {heading : Heading} {text : String}
    (only : heading.messages = [text]) :
    tally events heading = (events.map message).count text := by
  rw [tally_eq_countP_message, only, List.count_eq_countP]
  apply List.countP_congr
  intro message _
  simp only [List.mem_singleton, decide_eq_true_eq, beq_iff_eq]

end Event

end VliwPack
