import VliwPack.Command.Run
import VliwPack.Proofs.Command.Programs
import VliwPack.Proofs.Packing.Independence

/-! # A program is printed function by function

The functions of a program share a recognizer, and the output grows before it is known
whether a later function can be packed. Nothing of this shows: since regions are packed
independently (`Recognizer.pack_independent`), what is printed for a function is what a run
on that function alone prints, and a run goes on exactly as long as functions can be packed
and printed (`Command.run_composes`).
-/

namespace VliwPack

instance decidableExistsOk {ε α : Type} :
    (outcome : Except ε α) → Decidable (∃ value, outcome = .ok value)
  | .ok value => isTrue ⟨value, rfl⟩
  | .error _ => isFalse fun ⟨_, ends⟩ => nomatch ends

namespace Function

variable (config : Config) (function : Function)

/-- What packing the body gives when nothing was packed before. -/
def packed : PackResult := Recognizer.pack {} config.issueWidth function.body

/-- What printing the packed body gives. -/
def printed : Traced String :=
  Assembly.functionText config.layout function.name (function.packed config).schedule

/-- The function can be packed. -/
def Packs : Prop := ∃ cycles, (function.packed config).outcome = .ok cycles

/-- The function can be packed, and then it can be printed. -/
def Prints : Prop := function.Packs config ∧ ∃ text, (function.printed config).outcome = .ok text

instance : Decidable (function.Packs config) :=
  inferInstanceAs (Decidable (∃ cycles, (function.packed config).outcome = .ok cycles))

instance : Decidable (function.Prints config) :=
  inferInstanceAs (Decidable (_ ∧ ∃ text, (function.printed config).outcome = .ok text))

end Function

namespace Command

variable {config : Config} {function : Function} {rest functions : List Function}

/-- The functions up to and including the first that cannot be packed and printed. -/
def reached (config : Config) (functions : List Function) : List Function :=
  functions.takeWhile (·.Prints config) ++ (functions.dropWhile (·.Prints config)).take 1

private theorem reached_cons_of_prints (prints : function.Prints config) :
    reached config (function :: rest) = function :: reached config rest := by
  simp [reached, prints]

private theorem reached_cons_of_not_prints (fails : ¬ function.Prints config) :
    reached config (function :: rest) = [function] := by
  simp [reached, fails]

private theorem reached_singleton (config : Config) (function : Function) :
    reached config [function] = [function] := by
  by_cases prints : function.Prints config
  · rw [reached_cons_of_prints prints]
    rfl
  · rw [reached_cons_of_not_prints prints]

private theorem mem_of_mem_reached (member : function ∈ reached config functions) :
    function ∈ functions := by
  rcases List.mem_append.mp member with before | culprit
  · exact (List.takeWhile_prefix _).subset before
  · exact (List.dropWhile_suffix _).subset (List.mem_of_mem_take culprit)

/-! ### Printing functions one after another -/

/-- What is put out for a function: nothing if it cannot be packed, and else an empty line
and then its text, if that can be made. -/
def contribution (config : Config) (function : Function) : String :=
  if function.Packs config then "\n" ++ ((function.printed config).outcome.toOption.getD "")
  else ""

private theorem contribution_of_not_packs (unpacked : ¬ function.Packs config) :
    contribution config function = "" :=
  if_neg unpacked

private theorem contribution_of_not_prints (packs : function.Packs config)
    (fails : ¬ function.Prints config) : contribution config function = "\n" := by
  rw [contribution, if_pos packs]
  cases printed : (function.printed config).outcome with
  | error fault => rfl
  | ok text => exact absurd ⟨packs, text, printed⟩ fails

/-- A function is packed as if nothing was packed before it. -/
theorem pack_eq_packed (config : Config) (function : Function) (recognizer : Recognizer) :
    (recognizer.pack config.issueWidth function.body).outcome =
        (function.packed config).outcome ∧
      (recognizer.pack config.issueWidth function.body).schedule =
        (function.packed config).schedule := by
  obtain ⟨outcome, calls, -, -⟩ := recognizer.pack_independent config.issueWidth function.body
  exact ⟨outcome, congrArg Schedule.ofCalls calls⟩

/-- Where a function can be printed, the functions after it are printed after its text. -/
theorem printFunctions_of_prints (prints : function.Prints config) (rest : List Function)
    (recognizer : Recognizer) :
    ∃ next events, printFunctions config recognizer (function :: rest) =
      (printFunctions config next rest).after (contribution config function) events := by
  obtain ⟨⟨cycles, packs⟩, text, printed⟩ := prints
  obtain ⟨outcome, schedule⟩ := pack_eq_packed config function recognizer
  have made : (Assembly.functionText config.layout function.name
      (recognizer.pack config.issueWidth function.body).schedule).outcome = .ok text := by
    rw [schedule]
    exact printed
  have put : contribution config function = "\n" ++ text := by
    rw [contribution, if_pos ⟨cycles, packs⟩, printed]
    rfl
  rw [printFunctions, put]
  simp only [outcome, packs, made]
  exact ⟨_, _, rfl⟩

/-- Where a function cannot be printed, printing ends. -/
theorem printFunctions_of_not_prints (fails : ¬ function.Prints config)
    (recognizer : Recognizer) :
    (printFunctions config recognizer (function :: rest)).output = contribution config function ∧
      (printFunctions config recognizer (function :: rest)).failure.isSome = true := by
  obtain ⟨outcome, schedule⟩ := pack_eq_packed config function recognizer
  cases packs : (function.packed config).outcome with
  | error fault =>
      have unpacked : ¬ function.Packs config := by
        rintro ⟨cycles, ends⟩
        rw [packs] at ends
        cases ends
      rw [contribution_of_not_packs unpacked, printFunctions]
      simp only [outcome, packs]
      exact ⟨trivial, rfl⟩
  | ok cycles =>
      cases printed : (function.printed config).outcome with
      | error fault =>
          have unmade : (Assembly.functionText config.layout function.name
              (recognizer.pack config.issueWidth function.body).schedule).outcome =
                .error fault := by
            rw [schedule]
            exact printed
          rw [contribution_of_not_prints ⟨cycles, packs⟩ fails, printFunctions]
          simp only [outcome, packs, unmade]
          exact ⟨trivial, rfl⟩
      | ok text => exact absurd ⟨⟨cycles, packs⟩, text, printed⟩ fails

/-- What is printed is what each function contributes, up to the first that fails. -/
theorem output_printFunctions (recognizer : Recognizer) (functions : List Function) :
    (printFunctions config recognizer functions).output =
      String.join ((reached config functions).map (contribution config)) := by
  induction functions generalizing recognizer with
  | nil => rfl
  | cons function rest ih =>
      by_cases prints : function.Prints config
      · obtain ⟨next, events, step⟩ := printFunctions_of_prints prints rest recognizer
        rw [step, reached_cons_of_prints prints, List.map_cons, String.join_cons, ← ih next]
        rfl
      · rw [(printFunctions_of_not_prints prints recognizer).1,
          reached_cons_of_not_prints prints, List.map_singleton, String.join_cons,
          String.join_nil, String.append_empty]

/-- Printing fails exactly if some function cannot be packed and printed. -/
theorem isSome_failure_printFunctions (recognizer : Recognizer) (functions : List Function) :
    (printFunctions config recognizer functions).failure.isSome = true ↔
      ∃ function ∈ functions, ¬ function.Prints config := by
  induction functions generalizing recognizer with
  | nil => simp [printFunctions]
  | cons function rest ih =>
      by_cases prints : function.Prints config
      · obtain ⟨next, events, step⟩ := printFunctions_of_prints prints rest recognizer
        rw [step, Printout.after, ih next]
        simp [prints]
      · simp [(printFunctions_of_not_prints prints recognizer).2, prints]

/-! ### Runs on programs -/

/-- With these files, the options give this configuration and this program. -/
structure Supplies (read : FileReader) (options : Options) (config : Config)
    (program : Program) : Prop where
  config : options.config read = .ok config
  program : ∃ text, read options.input = .ok text ∧ Program.ofString text = .ok program

variable {read : FileReader} {options : Options} {program : Program} {setting : Option String}
  {arguments : List String}

/-- A run with a program and a configuration is the run of that program. -/
theorem run_of_supplies (asks : Request.ofArguments arguments = some (.schedule options))
    (supplies : Supplies read options config program) :
    run read setting arguments = runProgram options config setting program := by
  obtain ⟨text, given, decoded⟩ := supplies.program
  have loaded : readProgram read options.input = .ok program := by
    rw [readProgram, given]
    simp only [decoded]
  rw [run, asks]
  simp only [schedule, supplies.config, loaded]

/-- The output of a run is that of runs on its functions alone, one after another, up to the
first function that fails. -/
theorem run_composes (setting : Option String)
    (asks : Request.ofArguments arguments = some (.schedule options))
    (supplies : Supplies read options config program) (single : Function → FileReader)
    (alone : ∀ function ∈ program.functions,
      Supplies (single function) options config ⟨[function]⟩) :
    (run read setting arguments).output =
        String.join ((reached config program.functions).map fun function =>
          (run (single function) setting arguments).output) ∧
      ((run read setting arguments).code = 0 ↔
        ∀ function ∈ program.functions, function.Prints config) ∧
      ∀ function ∈ program.functions,
        (¬ function.Packs config → (run (single function) setting arguments).output = "") ∧
          (function.Packs config → ¬ function.Prints config →
            (run (single function) setting arguments).output = "\n") := by
  have contributes : ∀ function ∈ program.functions,
      (run (single function) setting arguments).output = contribution config function := by
    intro function member
    rw [run_of_supplies asks (alone function member), runProgram, output_printFunctions,
      reached_singleton, List.map_singleton, String.join_cons, String.join_nil,
      String.append_empty]
  have whole : run read setting arguments = runProgram options config setting program :=
    run_of_supplies asks supplies
  refine ⟨?_, ?_, fun function member => ⟨fun unpacked => ?_, fun packs fails => ?_⟩⟩
  · rw [whole, runProgram, output_printFunctions]
    refine congrArg String.join (List.map_congr_left fun function member => ?_)
    exact (contributes function (mem_of_mem_reached member)).symm
  · have stops : (run read setting arguments).code = 0 ↔
        ¬ (printFunctions config {} program.functions).failure.isSome = true := by
      rw [whole, runProgram]
      dsimp only
      split <;> simp [*]
    rw [stops, isSome_failure_printFunctions]
    simp
  · rw [contributes function member, contribution_of_not_packs unpacked]
  · rw [contributes function member, contribution_of_not_prints packs fails]

/-! ### A program that fails at its second function -/

/-- Files all of which hold the text of the program with these functions. -/
def filesOf (functions : List Function) : FileReader :=
  fun _ => .ok (Program.mk functions).toJson.toText

/-- Files all of which hold the text of the program with this function alone. -/
def filesOfSingle (function : Function) : FileReader := filesOf [function]

/-- Files with one program in them supply it. -/
theorem supplies_filesOf (functions : List Function) (path : String) :
    Supplies (filesOf functions) { input := path } {} ⟨functions⟩ :=
  ⟨rfl, _, rfl, Program.ofString_toJson ⟨functions⟩⟩

/-- An addition, which is packed and printed. -/
def addition : Function := ⟨"f", [⟨{ name := "add", isUnitFixed := true }, [], none⟩]⟩

/-- A call of what a virtual register holds. It is packed, but such a register is not printed. -/
def virtualCall : Function :=
  ⟨"g", [⟨{ name := "b", isUnitFixed := true, isCall := true }, [.use (.virtual 1)], none⟩]⟩

/-- A move of nothing, which is not packed. -/
def emptyMove : Function := ⟨"h", [⟨{ name := "mv", isMove := true }, [], none⟩]⟩

/-- The second function does not print, so that the third is not reached and the code is not zero.
-/
theorem run_composes_additionCallMove :
    (run (filesOf [addition, virtualCall, emptyMove]) none ["schedule", "in"]).output =
        (run (filesOfSingle addition) none ["schedule", "in"]).output ++ "\n" ∧
      (run (filesOf [addition, virtualCall, emptyMove]) none ["schedule", "in"]).code ≠ 0 ∧
      (run (filesOfSingle emptyMove) none ["schedule", "in"]).output = "" := by
  have asks : Request.ofArguments ["schedule", "in"] = some (.schedule { input := "in" }) := by
    decide
  obtain ⟨output, code, failing⟩ := run_composes none asks
    (supplies_filesOf [addition, virtualCall, emptyMove] "in") filesOfSingle
    (fun function _ => supplies_filesOf [function] "in")
  have reaches : reached {} [addition, virtualCall, emptyMove] = [addition, virtualCall] := by
    decide
  refine ⟨?_, fun succeeds => ?_, ?_⟩
  · have newline := (failing virtualCall (by simp)).2 (by decide) (by decide)
    rw [reaches, List.map_cons, List.map_singleton, String.join_cons, String.join_cons,
      String.join_nil, String.append_empty, newline] at output
    exact output
  · exact absurd (code.mp succeeds emptyMove (by simp)) (by decide)
  · exact (failing emptyMove (by simp)).1 (by decide)

end Command

end VliwPack
