import Mathlib.Logic.Function.Basic
import VliwPack.Proofs.Cycle.Ledger
import VliwPack.Proofs.Recognizer.Operations
import VliwPack.Proofs.Resolution.Faults

/-! # Sessions of a driver with a recognizer

A driver keeps candidate instructions under names and sends requests to a
recognizer, in any order. It follows the protocol if it emits only candidates that
are cleared: the latest classification of the candidate found no conflict, and
since then nothing has been booked and the driver has not replaced it.

After every session that follows the protocol the occupancy is the ledger of the
claims booked since the cycle began, and these are legal (`Session.Run.invariant`).
No emission ever finds its unit active.
-/

namespace VliwPack

/-- What a driver asks of a recognizer. -/
inductive Request (ι : Type) where
  /-- The driver puts an instruction under a name; the recognizer is not involved. -/
  | supply (name : ι) (instruction : Instruction)
  | classify (name : ι)
  | check (claim : Claim)
  | emit (name : ι)
  | advance
  | insertNoop
  | reset

/-- What a recognizer answers. -/
inductive Answer where
  | verdict (conflict : Option Conflict)
  | booked (claim : Claim)
  | done

/-- A request and how it ended. -/
structure Exchange (ι : Type) where
  request : Request ι
  outcome : Except Fault Answer

/-- A recognizer and the candidates of its driver. -/
structure Session (ι : Type) where
  recognizer : Recognizer
  candidates : ι → Instruction

namespace Session

variable {ι : Type} [DecidableEq ι]

/-- Lets the recognizer handle the candidate with a name. -/
def handle {α : Type} (routine : Routine Recognizer.WithCandidate α) (name : ι) :
    Routine (Session ι) α :=
  fun session =>
    let trail := routine (session.recognizer, session.candidates name)
    ⟨trail.toTraced,
      ⟨trail.state.1, Function.update session.candidates name trail.state.2⟩⟩

/-- Lets the recognizer work without a candidate. -/
def operate {α : Type} (routine : Routine Recognizer α) : Routine (Session ι) α :=
  fun session =>
    let trail := routine session.recognizer
    ⟨trail.toTraced, { session with recognizer := trail.state }⟩

/-- Carries out a request. -/
def perform : Request ι → Routine (Session ι) Answer
  | .supply name instruction => do
      modify fun session =>
        { session with candidates := Function.update session.candidates name instruction }
      return .done
  | .classify name => return .verdict (← handle Recognizer.classify name)
  | .check claim => return .verdict (← operate (Recognizer.check claim))
  | .emit name => return .booked (← handle Recognizer.emit name)
  | .advance => do
      operate Recognizer.advance
      return .done
  | .insertNoop => do
      operate Recognizer.insertNoop
      return .done
  | .reset => do
      modify fun session => { session with recognizer := session.recognizer.reset }
      return .done

/-! ### The protocol -/

/-- The request neither books anything nor classifies or replaces the candidate. -/
def Keeps (name : ι) : Request ι → Prop
  | .supply other _ | .classify other => other ≠ name
  | .emit _ => False
  | .check _ | .advance | .insertNoop | .reset => True

/-- The latest classification of the candidate found no conflict, and it has been
kept since. The latest exchange comes first. -/
inductive Cleared (name : ι) : List (Exchange ι) → Prop
  | classified (earlier : List (Exchange ι)) :
      Cleared name (⟨.classify name, .ok (.verdict none)⟩ :: earlier)
  | kept {exchange : Exchange ι} {earlier : List (Exchange ι)}
      (keeps : Keeps name exchange.request) (cleared : Cleared name earlier) :
      Cleared name (exchange :: earlier)

/-- The claims booked since the cycle began, in order. The latest exchange comes
first. -/
def bookings : List (Exchange ι) → List Claim
  | [] => []
  | exchange :: earlier =>
      match exchange.request, exchange.outcome with
      | .emit _, .ok (.booked claim) => bookings earlier ++ [claim]
      | .advance, _ | .insertNoop, _ | .reset, _ => []
      | _, _ => bookings earlier

/-- The sessions with a new recognizer in which the driver follows the protocol, with
their exchanges, the latest first. -/
inductive Run : List (Exchange ι) → Session ι → Prop
  | start (candidates : ι → Instruction) : Run [] ⟨{}, candidates⟩
  | step {history : List (Exchange ι)} {session : Session ι} (run : Run history session)
      (request : Request ι)
      (permitted : ∀ name, request = .emit name → Cleared name history) :
      Run (⟨request, (perform request session).outcome⟩ :: history)
        (perform request session).state

/-! ### What a request does -/

variable {session : Session ι} {name : ι} {claim : Claim} {fault : Fault}

private theorem perform_supply (session : Session ι) (name : ι) (instruction : Instruction) :
    perform (.supply name instruction) session =
      ⟨⟨.ok .done, []⟩,
        { session with candidates := Function.update session.candidates name instruction }⟩ := by
  simp [perform, Routine.bind_apply]

private theorem perform_classify_of_claim (claims : (session.candidates name).claim = .ok claim) :
    ∃ events, perform (.classify name) session =
      ⟨⟨.ok (.verdict (session.recognizer.occupancy.conflict? claim)), events⟩,
        ⟨session.recognizer.countVerdict (session.recognizer.occupancy.conflict? claim),
          Function.update session.candidates name (session.candidates name).resolved⟩⟩ := by
  simp [perform, Routine.bind_apply, handle, Recognizer.classify_apply_of_claim claims]

private theorem perform_classify_of_fault (fails : (session.candidates name).claim = .error fault) :
    ∃ events, perform (.classify name) session =
      ⟨⟨.error fault, events⟩,
        ⟨session.recognizer,
          Function.update session.candidates name (session.candidates name).resolved⟩⟩ := by
  simp [perform, Routine.bind_apply, handle, Recognizer.classify_apply_of_fault fails]

private theorem perform_check (session : Session ι) (claim : Claim) :
    ∃ events, perform (.check claim) session =
      ⟨⟨.ok (.verdict (session.recognizer.occupancy.conflict? claim)), events⟩,
        { session with
          recognizer :=
            session.recognizer.countVerdict (session.recognizer.occupancy.conflict? claim) }⟩ := by
  simp [perform, Routine.bind_apply, operate, Recognizer.check_apply]

/-- A candidate that fits is emitted. -/
theorem perform_emit (claims : (session.candidates name).claim = .ok claim)
    (fits : session.recognizer.occupancy.conflict? claim = none) :
    ∃ events, perform (.emit name) session =
      ⟨⟨.ok (.booked claim), events⟩,
        ⟨⟨session.recognizer.occupancy.add claim, session.recognizer.stats.countClaim claim⟩,
          Function.update session.candidates name (session.candidates name).resolved⟩⟩ := by
  simp [perform, Routine.bind_apply, handle,
    Recognizer.emit_apply_of_ok claims (Occupancy.book_of_conflict?_eq_none fits)]

/-- A new cycle and a new region both begin without bookings. -/
theorem perform_boundary (session : Session ι) {request : Request ι}
    (boundary : request = .advance ∨ request = .insertNoop ∨ request = .reset) :
    ∃ stats events, perform request session =
      ⟨⟨.ok .done, events⟩, { session with recognizer := ⟨.empty, stats⟩ }⟩ := by
  rcases boundary with rfl | rfl | rfl <;>
    simp [perform, Routine.bind_apply, operate, Recognizer.advance_apply,
      Recognizer.insertNoop_apply, Recognizer.reset]

/-! ### What a session keeps -/

/-- What holds throughout a session that follows the protocol. -/
structure Invariant (history : List (Exchange ι)) (session : Session ι) : Prop where
  occupancy : session.recognizer.occupancy = .ofClaims (bookings history)
  legal : Claim.Legal (bookings history)
  /-- A cleared candidate fits the cycle. -/
  fits : ∀ name, Cleared name history → ∃ claim,
    (session.candidates name).claim = .ok claim ∧
      session.recognizer.occupancy.conflict? claim = none
  /-- No unit is booked twice. -/
  calm : ∀ exchange ∈ history, ∀ unit, exchange.outcome ≠ .error (.bookedTwice unit)

omit [DecidableEq ι] in
/-- A candidate is cleared by being classified without a conflict, and stays so until it is replaced
or something is booked. -/
theorem cleared_cons_iff {exchange : Exchange ι} {earlier : List (Exchange ι)} :
    Cleared name (exchange :: earlier) ↔
      exchange = ⟨.classify name, .ok (.verdict none)⟩ ∨
        Keeps name exchange.request ∧ Cleared name earlier := by
  constructor
  · intro cleared
    cases cleared with
    | classified => exact .inl rfl
    | kept keeps cleared => exact .inr ⟨keeps, cleared⟩
  · rintro (rfl | ⟨keeps, cleared⟩)
    · exact .classified earlier
    · exact .kept keeps cleared

variable {history : List (Exchange ι)}

omit [DecidableEq ι] in
/-- A request that books nothing and begins no cycle keeps the ledger, if the
candidates it clears fit. -/
theorem Invariant.quiet (invariant : Invariant history session) {exchange : Exchange ι}
    {next : Session ι} (quiet : bookings (exchange :: history) = bookings history)
    (same : next.recognizer.occupancy = session.recognizer.occupancy)
    (fits : ∀ name, Cleared name (exchange :: history) → ∃ claim,
      (next.candidates name).claim = .ok claim ∧
        session.recognizer.occupancy.conflict? claim = none)
    (calm : ∀ unit, exchange.outcome ≠ .error (.bookedTwice unit)) :
    Invariant (exchange :: history) next where
  occupancy := by rw [quiet, same, invariant.occupancy]
  legal := quiet ▸ invariant.legal
  fits := by rwa [same]
  calm := by
    intro other member
    rcases List.mem_cons.mp member with rfl | earlier
    · exact calm
    · exact invariant.calm other earlier

/-- A new candidate keeps the invariant. -/
theorem Invariant.supply (invariant : Invariant history session) (name : ι)
    (instruction : Instruction) :
    Invariant (⟨.supply name instruction, (perform (.supply name instruction) session).outcome⟩ ::
      history) (perform (.supply name instruction) session).state := by
  rw [perform_supply]
  refine invariant.quiet rfl rfl ?_ (by simp)
  intro other cleared
  obtain ⟨⟨⟩⟩ | ⟨keeps, cleared⟩ := cleared_cons_iff.mp cleared
  have different : other ≠ name := keeps.symm
  simpa only [Function.update_of_ne different] using invariant.fits other cleared

/-- Classifying a candidate keeps the invariant. -/
theorem Invariant.classify (invariant : Invariant history session) (name : ι) :
    Invariant (⟨.classify name, (perform (.classify name) session).outcome⟩ :: history)
      (perform (.classify name) session).state := by
  cases claims : (session.candidates name).claim with
  | error fault =>
      obtain ⟨events, run⟩ := perform_classify_of_fault claims
      rw [run]
      refine invariant.quiet rfl rfl ?_ ?_
      · intro other cleared
        obtain ⟨⟨⟩⟩ | ⟨keeps, cleared⟩ := cleared_cons_iff.mp cleared
        have different : other ≠ name := keeps.symm
        simpa only [Function.update_of_ne different] using invariant.fits other cleared
      · rintro unit ⟨⟩
        cases Instruction.isMalformation_of_claim claims
  | ok claim =>
      obtain ⟨events, run⟩ := perform_classify_of_claim claims
      rw [run]
      refine invariant.quiet rfl (by simp) ?_ (by simp)
      intro other cleared
      by_cases same : other = name
      · subst same
        obtain found | ⟨keeps, -⟩ := cleared_cons_iff.mp cleared
        · refine ⟨claim, ?_, by simpa using found⟩
          simp [claims]
        · exact absurd rfl keeps
      · obtain found | ⟨-, cleared⟩ := cleared_cons_iff.mp cleared
        · have named := congrArg Exchange.request found
          exact absurd (Request.classify.inj named).symm same
        · simpa only [Function.update_of_ne same] using invariant.fits other cleared

/-- Checking a claim keeps the invariant. -/
theorem Invariant.check (invariant : Invariant history session) (claim : Claim) :
    Invariant (⟨.check claim, (perform (.check claim) session).outcome⟩ :: history)
      (perform (.check claim) session).state := by
  obtain ⟨events, run⟩ := perform_check session claim
  rw [run]
  refine invariant.quiet rfl (by simp) ?_ (by simp)
  intro other cleared
  obtain ⟨⟨⟩⟩ | ⟨-, cleared⟩ := cleared_cons_iff.mp cleared
  exact invariant.fits other cleared

/-- The candidate was classified in some state of the cycle with nothing booked since,
so its claim still fits and is legal with the claims booked. -/
theorem Invariant.emit (invariant : Invariant history session) (name : ι)
    (cleared : Cleared name history) :
    Invariant (⟨.emit name, (perform (.emit name) session).outcome⟩ :: history)
      (perform (.emit name) session).state := by
  obtain ⟨claim, claims, fits⟩ := invariant.fits name cleared
  obtain ⟨events, run⟩ := perform_emit claims fits
  rw [run]
  rw [invariant.occupancy] at fits
  refine ⟨?_, (Occupancy.conflict?_ofClaims_eq_none_iff invariant.legal).mp fits, ?_, ?_⟩
  · change session.recognizer.occupancy.add claim = .ofClaims (bookings history ++ [claim])
    rw [Occupancy.ofClaims_append_singleton, invariant.occupancy]
  · -- A booking leaves no candidate cleared.
    intro other cleared
    obtain ⟨⟨⟩⟩ | ⟨⟨⟩, -⟩ := cleared_cons_iff.mp cleared
  · intro exchange member
    rcases List.mem_cons.mp member with rfl | earlier
    · simp
    · exact invariant.calm exchange earlier

/-- Every claim fits an empty cycle, so what was cleared stays cleared. -/
theorem Invariant.boundary (invariant : Invariant history session) {request : Request ι}
    (boundary : request = .advance ∨ request = .insertNoop ∨ request = .reset) :
    Invariant (⟨request, (perform request session).outcome⟩ :: history)
      (perform request session).state := by
  obtain ⟨stats, events, run⟩ := perform_boundary session boundary
  rw [run]
  have none : bookings (⟨request, .ok .done⟩ :: history) = [] := by
    rcases boundary with rfl | rfl | rfl <;> rfl
  refine ⟨?_, none ▸ Claim.legal_nil, ?_, ?_⟩
  · rw [none, Occupancy.ofClaims_nil]
  · intro other cleared
    obtain ⟨⟨⟩⟩ | ⟨-, cleared⟩ := cleared_cons_iff.mp cleared
    obtain ⟨claim, claims, -⟩ := invariant.fits other cleared
    exact ⟨claim, claims, Occupancy.conflict?_empty claim⟩
  · intro exchange member
    rcases List.mem_cons.mp member with rfl | earlier
    · simp
    · exact invariant.calm exchange earlier

/-- What holds throughout a session holds at the end of every run. -/
theorem Run.invariant (run : Run history session) : Invariant history session := by
  induction run with
  | start candidates =>
      refine ⟨Occupancy.ofClaims_nil.symm, Claim.legal_nil, ?_, ?_⟩
      · rintro name ⟨⟩
      · rintro exchange ⟨⟩
  | step run request permitted invariant =>
      cases request with
      | supply name instruction => exact invariant.supply name instruction
      | classify name => exact invariant.classify name
      | check claim => exact invariant.check claim
      | emit name => exact invariant.emit name (permitted name rfl)
      | advance => exact invariant.boundary (.inl rfl)
      | insertNoop => exact invariant.boundary (.inr (.inl rfl))
      | reset => exact invariant.boundary (.inr (.inr rfl))

/-- **The occupancy is an exact ledger of the cycle.** After any session that follows
the protocol, the active units and the taken paths are those of the claims booked
since the cycle began, each booked once, and so are the moves counted. Moves and
move-sharing units keep within each side's budget, so what is left of it is the exact
difference. No booking ever finds its unit active. -/
theorem Run.ledger_exact (run : Run history session) :
    let claims := bookings history
    let occupancy := session.recognizer.occupancy
    (occupancy.activeUnits.Perm (claims.filterMap Claim.unit?) ∧
        (claims.filterMap Claim.unit?).Nodup) ∧
      (occupancy.takenPaths.Perm (claims.filterMap Claim.path?) ∧
        (claims.filterMap Claim.path?).Nodup) ∧
      (∀ side, occupancy.moves side = (claims.filterMap Claim.moveSide?).count side) ∧
      (∀ side, occupancy.moves side + occupancy.activeSharing side ≤ Machine.moveBudget) ∧
      (∀ side, occupancy.moves side + occupancy.activeSharing side +
        occupancy.movesAvailable side = Machine.moveBudget) ∧
      ∀ exchange ∈ history, ∀ unit, exchange.outcome ≠ .error (.bookedTwice unit) := by
  obtain ⟨same, legal, -, calm⟩ := run.invariant
  intro claims occupancy
  have ledger : occupancy = .ofClaims claims := same
  have within (side : Side) :
      occupancy.moves side + occupancy.activeSharing side ≤ Machine.moveBudget := by
    rw [ledger, Occupancy.moves_add_activeSharing_ofClaims legal.units]
    exact legal.budget side
  refine ⟨⟨?_, legal.units⟩, ⟨?_, legal.paths⟩, ?_, within, ?_, calm⟩
  · rw [ledger]
    exact Occupancy.activeUnits_ofClaims_perm legal.units
  · rw [ledger]
    exact Occupancy.takenPaths_ofClaims_perm legal.paths
  · intro side
    rw [ledger]
    rfl
  · intro side
    have within := within side
    unfold Occupancy.movesAvailable
    omega

/-- The candidates of an example: an addition that reads across, and a move within
side A. -/
def addAndMove : Bool → Instruction
  | true => .addition .b
  | false => .copy .a

/-- An addition that reads across and a move are booked beside each other. -/
theorem ledger_exact_addAndMove :
    ∃ (history : List (Exchange Bool)) (session : Session Bool), Run history session ∧
      bookings history = [.unit ⟨.l, .a⟩ (some .x1), .move .a none] ∧
        session.recognizer.occupancy.activeUnits.Perm [⟨.l, .a⟩] ∧
          session.recognizer.occupancy.takenPaths.Perm [.x1] := by
  have start := Run.start addAndMove
  have first := (start.step (.classify true) (by simp)).step (.emit true) fun _ same => by
    cases same; exact .classified []
  have second := (first.step (.classify false) (by simp)).step (.emit false) fun _ same => by
    cases same; exact .classified _
  exact ⟨_, _, second, rfl, second.ledger_exact.1.1, second.ledger_exact.2.1.1⟩

end Session

end VliwPack
