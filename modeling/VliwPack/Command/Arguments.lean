import VliwPack.Command.Help

/-! # Command-line arguments

The command `schedule` takes one input path and options, in any order. A long
option may be followed by its value or carry it after an equals sign; a short one
may also carry it directly. No option may be given twice, a value that follows its
option does not start with a dash unless it is just a dash, and no path is empty.
After `--` all arguments are paths. The command `help` takes at most the name of a
command.
-/

namespace VliwPack.Command

/-- What to schedule, and how. -/
structure Options where
  input : String
  configPath : Option String := none
  traces : Bool := false
  printsStats : Bool := false
  omitsBundles : Bool := false
  deriving DecidableEq

/-- What a command line asks for. -/
inductive Request where
  | version
  | help (topic : HelpTopic)
  | schedule (options : Options)
  deriving DecidableEq

/-- The options of `schedule` read so far. -/
structure Draft where
  input : Option String := none
  configPath : Option String := none
  traces : Bool := false
  printsStats : Bool := false
  omitsBundles : Bool := false

namespace Draft

/-- Gives the input path. -/
def giveInput (draft : Draft) (path : String) : Option Draft :=
  if path = "" || draft.input.isSome then none else some { draft with input := some path }

/-- Gives the path of the configuration. -/
def giveConfig (draft : Draft) (path : String) : Option Draft :=
  if path = "" || draft.configPath.isSome then none
  else some { draft with configPath := some path }

/-- Sets the flag with a long name. -/
def setFlag (draft : Draft) (name : String) : Option Draft :=
  if name = "trace" then
    if draft.traces then none else some { draft with traces := true }
  else if name = "stats" then
    if draft.printsStats then none else some { draft with printsStats := true }
  else if name = "no-bundles" then
    if draft.omitsBundles then none else some { draft with omitsBundles := true }
  else
    none

/-- The options, once all arguments are read. -/
def finish (draft : Draft) : Option Options :=
  draft.input.map fun input =>
    { input
      configPath := draft.configPath
      traces := draft.traces
      printsStats := draft.printsStats
      omitsBundles := draft.omitsBundles }

end Draft

/-- An argument by its form. -/
inductive Argument where
  /-- `--` ends the options. -/
  | endOfOptions
  /-- A long option, with the value after an equals sign if there is one. -/
  | long (name : String) (value : Option String)
  /-- A dash and one or more characters. -/
  | short (letter : Char) (rest : List Char)
  /-- Anything else. -/
  | plain (text : String)

/-- The form of an argument. -/
def Argument.ofString (text : String) : Argument :=
  match text.toList with
  | ['-', '-'] => endOfOptions
  | '-' :: '-' :: rest =>
      let name := rest.takeWhile (· != '=')
      match rest.dropWhile (· != '=') with
      | [] => long (String.ofList name) none
      | _ :: value => long (String.ofList name) (some (String.ofList value))
  | '-' :: letter :: rest => short letter rest
  | _ => plain text

/-- Reads the arguments of `schedule` after the options. -/
def readPaths (draft : Draft) : List String → Option Request
  | [] => draft.finish.map .schedule
  | path :: rest => do readPaths (← draft.giveInput path) rest

/-- Reads the arguments of `schedule`. -/
def readOptions (draft : Draft) : List String → Option Request
  | [] => draft.finish.map .schedule
  | argument :: rest =>
      match Argument.ofString argument with
      | .endOfOptions => readPaths draft rest
      | .plain path => do readOptions (← draft.giveInput path) rest
      | .long "help" none => some (.help .schedule)
      | .long "config" (some path) => do readOptions (← draft.giveConfig path) rest
      | .long "config" none => readConfig draft rest
      | .long name none => do readOptions (← draft.setFlag name) rest
      | .long _ (some _) => none
      | .short 'h' _ => some (.help .schedule)
      | .short 'c' [] => readConfig draft rest
      | .short 'c' ('=' :: path) => do
          readOptions (← draft.giveConfig (String.ofList path)) rest
      | .short 'c' path => do readOptions (← draft.giveConfig (String.ofList path)) rest
      | .short _ _ => none
where
  /-- Reads the value of an option, then the other arguments. -/
  readConfig (draft : Draft) : List String → Option Request
    | [] => none
    | argument :: rest =>
        match Argument.ofString argument with
        | .plain path => do readOptions (← draft.giveConfig path) rest
        | .endOfOptions | .long _ _ | .short _ _ => none

/-- What the arguments ask for, if they are well formed. -/
def Request.ofArguments : List String → Option Request
  | [] => none
  | first :: rest =>
      match Argument.ofString first with
      | .long "version" none | .short 'V' _ => some .version
      | .long "help" none => some (.help (.program true))
      | .short 'h' _ => some (.help (.program false))
      | .plain "help" => (HelpTopic.ofWords? rest).map .help
      | .plain "schedule" => readOptions {} rest
      | _ => none

end VliwPack.Command
