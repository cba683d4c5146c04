import VliwPack.Assembly.Line
import VliwPack.Directory
import VliwPack.Json.Decoder

/-! # Configurations

A configuration says whether hazards are logged, how many instructions may issue
in a cycle and how schedules are printed. A text gives any part of it and leaves
the rest at its default. The issue width is checked once the whole text is read.
-/

namespace VliwPack

open Json (Decoder)

/-- What a user may choose. -/
structure Config where
  /-- Log every hazard decision. -/
  tracesHazards : Bool := false
  /-- The most instructions that issue in a cycle. -/
  issueWidth : Nat := Machine.maxIssueWidth
  /-- How schedules are printed. -/
  layout : Assembly.Layout := {}
  deriving DecidableEq

/-- Why there is no configuration. -/
inductive ConfigError where
  /-- Its file cannot be read. -/
  | unread (path : String) (cause : ReadError)
  /-- The text is no configuration. -/
  | malformed (rejection : Json.Rejection)
  /-- The issue width is zero or more than the machine issues. -/
  | issueWidth (width : Nat)
  deriving DecidableEq

/-- The one-line report of a configuration error. -/
def ConfigError.message : ConfigError → String
  | unread path cause => "failed to read " ++ path ++ ": " ++ cause.message
  | malformed _ => "malformed configuration: "
  | issueWidth width =>
      "issue width " ++ toString width ++ " outside 1..=" ++ toString Machine.maxIssueWidth

namespace Config

/-- The section of general choices. -/
def generalDecoder : Decoder Bool :=
  .overlay [.of "trace_hazards" .boolean fun traces _ => traces] false

/-- The section of packing choices. -/
def packingDecoder : Decoder Nat :=
  .overlay [.of "issue_width" (.natBelow UInt64.size) fun width _ => width]
    Machine.maxIssueWidth

/-- The section of printing choices. -/
def layoutDecoder : Decoder Assembly.Layout :=
  .overlay
    [.of "bundle_mode" .boolean fun bundleMode draft => { draft with bundleMode },
      .of "cycle_comment" .boolean fun cycleComment draft => { draft with cycleComment }]
    {}

/-- A configuration whose issue width is not checked yet. -/
def decoder : Decoder Config :=
  .overlay
    [.of "general" generalDecoder fun tracesHazards draft => { draft with tracesHazards },
      .of "sched" packingDecoder fun issueWidth draft => { draft with issueWidth },
      .of "printer" layoutDecoder fun layout draft => { draft with layout }]
    {}

/-- Accepts a configuration with a possible issue width. -/
def validate (config : Config) : Except ConfigError Config :=
  if config.issueWidth = 0 || Machine.maxIssueWidth < config.issueWidth then
    .error (.issueWidth config.issueWidth)
  else
    .ok config

/-- The configuration that a text gives. -/
def ofString (text : String) : Except ConfigError Config :=
  match Json.decodeString decoder text with
  | .ok config => config.validate
  | .error rejection => .error (.malformed rejection)

/-- The configuration in a file. -/
def ofFile (read : FileReader) (path : String) : Except ConfigError Config :=
  match read path with
  | .ok text => ofString text
  | .error cause => .error (.unread path cause)

end Config

end VliwPack
