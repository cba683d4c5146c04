import VliwPack.Assembly.Function
import VliwPack.Command.Arguments
import VliwPack.Command.LogFilter
import VliwPack.Config
import VliwPack.Packer
import VliwPack.Program
import VliwPack.Stats.Report

/-! # Running the command line

A run packs the functions of a program one after another and prints each before it
goes on to the next. The first function that cannot be packed or printed ends the
run; what was printed before it stays. One recognizer serves all functions, so the
statistics cover the whole program.

A run is a function of the arguments, the files and the log setting. It gives the
exit code, the two output texts and the events to be logged.
-/

namespace VliwPack.Command

/-- What a run leaves behind. -/
structure Outcome where
  code : Nat
  output : String := ""
  /-- The error output, apart from logged events. -/
  errors : String := ""
  /-- The events to be logged. -/
  logged : List Event := []

/-- A run that ends with an error. -/
def Outcome.failure (message : String) : Outcome :=
  { code := 1, errors := "error: " ++ message ++ "\n" }

/-- The name and version of the program. -/
def versionText : String := "c64x-sched 0.3.0\n"

/-- How the program is called. -/
def usageText : String :=
  "Usage: c64x-sched schedule [--config <CONFIG>] [--trace] [--stats] [--no-bundles] <INPUT>\n"

/-- What printing functions gives. -/
structure Printout where
  output : String := ""
  events : List Event := []
  /-- The message of the failure that ended printing. -/
  failure : Option String := none
  /-- The statistics at the end. -/
  stats : Stats

namespace Printout

/-- A printout with output and events before its own. -/
def after (output : String) (events : List Event) (printout : Printout) : Printout :=
  { printout with output := output ++ printout.output, events := events ++ printout.events }

end Printout

/-- Packs and prints functions, one after another. Each function's text comes
after an empty line, which is printed before the text is made. -/
def printFunctions (config : Config) (recognizer : Recognizer) : List Function → Printout
  | [] => { stats := recognizer.stats }
  | function :: rest =>
      let packed := recognizer.pack config.issueWidth function.body
      match packed.outcome with
      | .error fault =>
          { events := packed.events
            failure := some (function.name ++ ": " ++ fault.message)
            stats := packed.recognizer.stats }
      | .ok cycles =>
          let text := Assembly.functionText config.layout function.name packed.schedule
          let events := packed.events ++ .scheduled function.name cycles :: text.events
          match text.outcome with
          | .error fault =>
              { output := "\n", events
                failure := some fault.message
                stats := packed.recognizer.stats }
          | .ok text =>
              (printFunctions config packed.recognizer rest).after ("\n" ++ text) events

/-- The configuration that the options choose. -/
def Options.config (options : Options) (read : FileReader) : Except ConfigError Config := do
  let config ← match options.configPath with
    | some path => Config.ofFile read path
    | none => pure {}
  if options.omitsBundles then
    return { config with layout := { config.layout with bundleMode := false } }
  else
    return config

/-- The log filter: the log setting, if it can be read, else one by level. -/
def logFilter (setting : Option String) (isVerbose : Bool) : LogFilter :=
  (setting.bind LogFilter.read?).getD (.atLevel (if isVerbose then .debug else .warn))

/-- The program in a file. -/
def readProgram (read : FileReader) (path : String) : Except String Program :=
  match read path with
  | .error cause => .error ("failed to read " ++ path ++ ": " ++ cause.message)
  | .ok text =>
      match Program.ofString text with
      | .error _ => .error ("malformed program " ++ path ++ ": ")
      | .ok program => .ok program

/-- Prints the functions of a program under a configuration. -/
def runProgram (options : Options) (config : Config) (setting : Option String)
    (program : Program) : Outcome :=
  let printout := printFunctions config {} program.functions
  let filter := logFilter setting (options.traces || config.tracesHazards)
  let errors := match printout.failure with
    | some message => "error: " ++ message ++ "\n"
    | none => if options.printsStats then printout.stats.report ++ "\n" else ""
  { code := if printout.failure.isSome then 1 else 0
    output := printout.output
    errors
    logged := printout.events.filter filter.passes }

/-- Schedules the program in a file. -/
def schedule (read : FileReader) (setting : Option String) (options : Options) : Outcome :=
  match options.config read with
  | .error error => .failure error.message
  | .ok config =>
      match readProgram read options.input with
      | .error message => .failure message
      | .ok program => runProgram options config setting program

/-- Runs the command line. -/
def run (read : FileReader) (setting : Option String) (arguments : List String) : Outcome :=
  match Request.ofArguments arguments with
  | none => { code := 2, errors := usageText }
  | some .version => { code := 0, output := versionText }
  | some (.help topic) => { code := 0, output := topic.text }
  | some (.schedule options) => schedule read setting options

/-- The paths a run reads. -/
def pathsRead (arguments : List String) : List String :=
  match Request.ofArguments arguments with
  | some (.schedule options) => options.configPath.toList ++ [options.input]
  | _ => []

end VliwPack.Command
