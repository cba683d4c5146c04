/-! # Help texts

The program explains itself, its command `schedule` and its command `help`. The
program has a long and a short explanation; the long one shows examples, and puts
what an option does below its name.
-/

namespace VliwPack.Command

/-- What help is asked for. -/
inductive HelpTopic where
  | program (isLong : Bool)
  | schedule
  | help
  deriving DecidableEq

namespace HelpTopic

/-- The topic that the words after `help` name. -/
def ofWords? : List String → Option HelpTopic
  | [] => some (program true)
  | ["schedule"] => some schedule
  | ["help"] => some help
  | _ => none

/-- What the program does, with examples. -/
def programAbout : String :=
  "Pack allocated C64x instruction streams into execute packets and print them as assembly.\n\n" ++
  "Examples:\n" ++
  "  c64x-sched schedule kernel.json\n" ++
  "  c64x-sched schedule kernel.json --config sched.json --stats\n" ++
  "  RUST_LOG=c64x_sched_core=trace c64x-sched schedule kernel.json\n"

/-- The commands of the program. -/
def programCommands : String :=
  "\nUsage: c64x-sched <COMMAND>\n\n" ++
  "Commands:\n" ++
  "  schedule  Pack every function of a JSON program and print the bundles\n" ++
  "  help      Print this message or the help of the given subcommand(s)\n\n" ++
  "Options:\n"

/-- The help on a topic. -/
def text : HelpTopic → String
  | program true =>
      programAbout ++ programCommands ++
      "  -h, --help\n          Print help (see a summary with '-h')\n\n" ++
      "  -V, --version\n          Print version\n"
  | program false =>
      "TMS320C64x VLIW bundle packer\n" ++ programCommands ++
      "  -h, --help     Print help (see more with '--help')\n" ++
      "  -V, --version  Print version\n"
  | schedule =>
      "Pack every function of a JSON program and print the bundles\n\n" ++
      "Usage: c64x-sched schedule [OPTIONS] <INPUT>\n\n" ++
      "Arguments:\n" ++
      "  <INPUT>  Program to schedule " ++
      "(`\x7b\"functions\": [\x7b\"name\": .., \"insts\": [..]\x7d]\x7d`)\n\n" ++
      "Options:\n" ++
      "  -c, --config <CONFIG>  JSON configuration file\n" ++
      "      --trace            Log every hazard decision to stderr\n" ++
      "      --stats            Print scheduling statistics to stderr\n" ++
      "      --no-bundles       Print one instruction per line without `||` markers\n" ++
      "  -h, --help             Print help\n"
  | help =>
      "Print this message or the help of the given subcommand(s)\n\n" ++
      "Usage: c64x-sched help [COMMAND]...\n\n" ++
      "Arguments:\n" ++
      "  [COMMAND]...  Print help for the subcommand(s)\n"

end HelpTopic

end VliwPack.Command
