import VliwPack.Proofs.Assembly.Reading

/-! # With and without parallel markers

Both ways of printing a function write the same lines of code and comment, and differ in the
mark of the code that joins. Below the label, a line is a comment or code that begins with a
predicate or a tab (`Line.IsBody`), also where it is the code of a frame, so only the code
that joins can carry the parallel marker. Deleting the markers from the text in bundle mode
therefore gives the text without (`functionText_unmarked`).
-/

namespace VliwPack.Assembly

open Instruction

/-- The line without its parallel marker. -/
def unmarked : List Char → List Char
  | '\t' :: '|' :: '|' :: rest => '\t' :: rest
  | line => line

/-- The line is a comment, or code that begins with a predicate or a tab, and has no line end
of its own. -/
inductive Line.IsBody : Line → Prop
  | note {text : String} (plain : SingleLine text) : IsBody (.note text)
  | code (joins : Bool) {text : String} {first : Char} {rest : List Char}
      (plain : SingleLine text) (begins : text.toList = first :: rest)
      (head : first = '[' ∨ first = '\t') : IsBody (.code joins text)

variable {line : Line} {lines : List Line} {group : List Instruction} {bundles : List Bundle}

/-- A line of the body has no line end in it, marked or not. -/
theorem Line.IsBody.singleLine (body : line.IsBody) (bundleMode : Bool) :
    SingleLine (line.text bundleMode) := by
  cases body with
  | note plain => exact SingleLine.append (by decide) plain
  | code joins plain =>
      refine SingleLine.append ?_ plain
      cases bundleMode <;> cases joins <;> decide

/-- Only the marker tells the two texts of a line apart. -/
theorem Line.IsBody.unmarked_text (body : line.IsBody) :
    unmarked (line.text true).toList = (line.text false).toList := by
  cases body with
  | note plain => simp [Line.text, unmarked]
  | code joins plain begins head =>
      cases joins <;> rcases head with rfl | rfl <;>
        simp [Line.text, Line.startMark, Line.joinMark, unmarked, begins]

/-! ### The lines below a label -/

private theorem isBody_of_mem_frameSetup (size : Int) : ∀ line ∈ frameSetup size, line.IsBody := by
  have first : (Line.code false ("\tmvk\t" ++ toString size ++ ", A0")).IsBody := by
    refine .code false ?_ (by rw [String.append_assoc, String.toList_append]; rfl) (.inr rfl)
    exact SingleLine.append (.append (by decide) (.integer size)) (by decide)
  unfold frameSetup
  simp only [List.forall_mem_cons]
  refine ⟨first, ?_, ?_, ?_, ?_, ?_, nofun⟩
  all_goals exact .code _ (by decide) rfl (.inr rfl)

private theorem isBody_of_mem_frameTeardown : ∀ line ∈ frameTeardown, line.IsBody := by
  unfold frameTeardown
  simp only [List.forall_mem_cons]
  refine ⟨?_, ?_, ?_, ?_, nofun⟩
  all_goals exact .code _ (by decide) rfl (.inr rfl)

/-- The code of a frame consists of lines of a body. -/
theorem isBody_of_frame? {instruction : Instruction}
    (stands : frame? instruction = .ok (some lines)) : ∀ line ∈ lines, line.IsBody := by
  unfold frame? at stands
  split at stands
  · split at stands <;> cases stands
    exact isBody_of_mem_frameSetup _
  · split at stands <;> cases stands
    exact isBody_of_mem_frameTeardown

private theorem isBody_of_text {instruction : Instruction} {text : String}
    (plain : instruction.Plain) (spelled : instruction.text.outcome = .ok text) (joins : Bool) :
    (Line.code joins text).IsBody := by
  obtain ⟨first, rest, begins, head⟩ := exists_first_of_text spelled
  exact .code joins (singleLine_text plain spelled) begins head

/-- The lines of a bundle's instructions are lines of a body. -/
theorem isBody_of_instructionLines {begun : Bool}
    (plain : ∀ instruction ∈ group, instruction.Plain)
    (written : (instructionLines begun group).outcome = .ok lines) :
    ∀ line ∈ lines, line.IsBody := by
  induction group generalizing begun lines with
  | nil =>
      cases written
      exact nofun
  | cons instruction rest ih =>
      obtain ⟨here, there⟩ := List.forall_mem_cons.mp plain
      rw [instructionLines] at written
      split at written
      next pseudo =>
        obtain ⟨frame, stands, written⟩ := Traced.exists_of_bind_ok written
        cases frame with
        | none =>
            obtain ⟨after, remaining, written⟩ := Traced.exists_of_bind_ok written
            cases written
            exact List.forall_mem_cons.mpr ⟨.note here.name, ih there remaining⟩
        | some code =>
            obtain ⟨after, remaining, written⟩ := Traced.exists_of_bind_ok written
            cases written
            simp only [List.cons_append, List.forall_mem_cons, List.forall_mem_append]
            refine ⟨.note (.append (by decide) here.name), isBody_of_frame? stands, ?_⟩
            exact ⟨.note (.append (by decide) here.name), ih there remaining⟩
      next real =>
        obtain ⟨text, spelled, written⟩ := Traced.exists_of_bind_ok written
        obtain ⟨after, remaining, written⟩ := Traced.exists_of_bind_ok written
        cases written
        exact List.forall_mem_cons.mpr ⟨isBody_of_text here spelled begun, ih there remaining⟩

/-- The lines of bundles are lines of a body. -/
theorem isBody_of_bundleLines
    (plain : ∀ bundle ∈ bundles, ∀ instruction ∈ bundle.instructions, instruction.Plain)
    (written : (bundleLines bundles).outcome = .ok lines) : ∀ line ∈ lines, line.IsBody := by
  induction bundles generalizing lines with
  | nil =>
      cases written
      exact nofun
  | cons bundle rest ih =>
      obtain ⟨here, there⟩ := List.forall_mem_cons.mp plain
      obtain ⟨_, -, written⟩ := Traced.exists_of_bind_ok written
      obtain ⟨first, shown, written⟩ := Traced.exists_of_bind_ok written
      obtain ⟨after, remaining, written⟩ := Traced.exists_of_bind_ok written
      cases written
      exact List.forall_mem_append.mpr ⟨isBody_of_instructionLines here shown, ih there remaining⟩

/-! ### The whole text -/

/-- What stands above the label of a function. -/
def linesAbove (cycleComment : Bool) (cycles : Nat) : List (List Char) :=
  if cycleComment then [("\t; SCHEDULED CYCLES: " ++ toString cycles).toList] else []

/-- Cut at its line ends, a text has the lines above the label, the label, and a line for each of
its body. -/
theorem splitOn_functionText (bundleMode cycleComment : Bool) {name : String} (cycles : Nat)
    (titled : SingleLine name) (body : ∀ line ∈ lines, line.IsBody) :
    (Line.textAll bundleMode (headLines cycleComment name cycles ++ lines)).toList.splitOn '\n' =
      linesAbove cycleComment cycles ++ (name ++ ":").toList ::
        (lines.map (fun line => (line.text bundleMode).toList) ++ [[]]) := by
  have label : SingleLine ((Line.label name).text bundleMode) := titled.append (by decide)
  have note : SingleLine
      ((Line.note ("SCHEDULED CYCLES: " ++ toString cycles)).text bundleMode) :=
    SingleLine.append (by decide) (.append (by decide) (.natural cycles))
  have plain : ∀ line ∈ headLines cycleComment name cycles ++ lines,
      SingleLine (line.text bundleMode) := by
    refine List.forall_mem_append.mpr ⟨?_, fun line member => (body line member).singleLine _⟩
    cases cycleComment with
    | false => exact List.forall_mem_singleton.mpr label
    | true => exact List.forall_mem_cons.mpr ⟨note, List.forall_mem_singleton.mpr label⟩
  rw [splitOn_textAll plain]
  cases cycleComment <;> simp [headLines, linesAbove, Line.text]

/-- Whatever the schedule, printing it in bundle mode and without either fail with the same
fault or both succeed. If then no line end stands in the name, the mnemonics and the labels,
the lines without bundle mode are those in bundle mode, with the parallel marker deleted from
each line below the label that begins with it. -/
theorem functionText_unmarked (schedule : Schedule) (name : String) (cycleComment : Bool) :
    (∃ fault,
      (functionText { bundleMode := true, cycleComment } name schedule).outcome = .error fault ∧
        (functionText { bundleMode := false, cycleComment } name schedule).outcome =
          .error fault) ∨
      ∃ bundled flat,
        (functionText { bundleMode := true, cycleComment } name schedule).outcome = .ok bundled ∧
          (functionText { bundleMode := false, cycleComment } name schedule).outcome = .ok flat ∧
          (SingleLine name →
            (∀ bundle ∈ schedule.bundles, ∀ instruction ∈ bundle.instructions,
              instruction.Plain) →
            ∃ body,
              bundled.toList.splitOn '\n' =
                  linesAbove cycleComment schedule.cycles ++ (name ++ ":").toList :: body ∧
                flat.toList.splitOn '\n' =
                  linesAbove cycleComment schedule.cycles ++
                    (name ++ ":").toList :: body.map unmarked) := by
  rcases listed : bundleLines schedule.bundles with ⟨fault | lines, events⟩
  · left
    refine ⟨fault, ?_, ?_⟩ <;> rw [functionText, listed] <;> rfl
  · right
    refine ⟨_, _, by rw [functionText, listed]; rfl, by rw [functionText, listed]; rfl, ?_⟩
    intro titled plain
    have body := isBody_of_bundleLines plain (congrArg Traced.outcome listed)
    refine ⟨_, splitOn_functionText true cycleComment schedule.cycles titled body, ?_⟩
    rw [splitOn_functionText false cycleComment schedule.cycles titled body]
    have same : lines.map (fun line => unmarked (line.text true).toList) =
        lines.map (fun line => (line.text false).toList) :=
      List.map_congr_left fun line member => (body line member).unmarked_text
    rw [List.map_append, List.map_map, ← same]
    rfl

/-- A frame is set up, and two instructions issue with it. -/
def frameAndPair : Schedule :=
  .ofCalls [.begin 0,
    .push { descriptor := { name := "prolog", isPseudo := true }, operands := [.immediate 16] },
    .push (addition .a), .push (copy .b)]

/-- Both texts have the label below the number of cycles, and below it the same lines but for the
markers. -/
theorem functionText_unmarked_frameAndPair :
    ∃ bundled flat body,
      (functionText { bundleMode := true } "f" frameAndPair).outcome = .ok bundled ∧
        (functionText { bundleMode := false } "f" frameAndPair).outcome = .ok flat ∧
        bundled.toList.splitOn '\n' = linesAbove true 1 ++ "f:".toList :: body ∧
        flat.toList.splitOn '\n' = linesAbove true 1 ++ "f:".toList :: body.map unmarked := by
  rcases functionText_unmarked frameAndPair "f" true with
    ⟨fault, failed, -⟩ | ⟨bundled, flat, shown, plain, lines⟩
  · obtain ⟨text, printed⟩ :
        ∃ text, (functionText { bundleMode := true } "f" frameAndPair).outcome = .ok text :=
      ⟨_, rfl⟩
    cases failed.symm.trans printed
  · obtain ⟨body, marked, flattened⟩ := lines (by decide) (by decide)
    exact ⟨bundled, flat, body, shown, plain, marked, flattened⟩

end VliwPack.Assembly
