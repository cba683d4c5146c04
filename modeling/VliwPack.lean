import VliwPack.Datapath
import VliwPack.Numeral
import VliwPack.Character.Ranges
import VliwPack.Character.Blank
import VliwPack.Character.Alphanumeric
import VliwPack.Register
import VliwPack.Fault
import VliwPack.Instruction
import VliwPack.Claim
import VliwPack.Event
import VliwPack.Traced
import VliwPack.Resolution
import VliwPack.Occupancy
import VliwPack.Stats
import VliwPack.Recognizer
import VliwPack.Schedule
import VliwPack.Packer
import VliwPack.Binary64
import VliwPack.Stats.Report
import VliwPack.Assembly.Line
import VliwPack.Assembly.Instruction
import VliwPack.Assembly.Function
import VliwPack.Json.Text
import VliwPack.Json.Token
import VliwPack.Json.Value
import VliwPack.Json.Reader
import VliwPack.Json.Printer
import VliwPack.Json.Decoder
import VliwPack.Instruction.Json
import VliwPack.Directory
import VliwPack.Config
import VliwPack.Program
import VliwPack.Command.Help
import VliwPack.Command.Arguments
import VliwPack.Command.Pattern.Atom
import VliwPack.Command.Pattern
import VliwPack.Command.Directive
import VliwPack.Command.LogFilter
import VliwPack.Command.Run
import VliwPack.Main
import VliwPack.Proofs.Routine
import VliwPack.Proofs.Numeral
import VliwPack.Proofs.RegisterNames
import VliwPack.Proofs.Resolution.FormatField
import VliwPack.Proofs.Resolution.Equations
import VliwPack.Proofs.Resolution.Claiming
import VliwPack.Proofs.Resolution.Idempotence
import VliwPack.Proofs.Resolution.Faults
import VliwPack.Proofs.Cycle.Booking
import VliwPack.Proofs.Cycle.Legality
import VliwPack.Proofs.Cycle.Ledger
import VliwPack.Proofs.Recognizer.Operations
import VliwPack.Proofs.Recognizer.Session
import VliwPack.Proofs.Recognizer.Batch
import VliwPack.Proofs.Packing.Cutting
import VliwPack.Proofs.Packing.Packet
import VliwPack.Proofs.Packing.Step
import VliwPack.Proofs.Packing.Stopping
import VliwPack.Proofs.Packing.Placement
import VliwPack.Proofs.Packing.Announcement
import VliwPack.Proofs.Packing.Region
import VliwPack.Proofs.Packing.Bundles
import VliwPack.Proofs.Packing.Optimality
import VliwPack.Proofs.Assembly.Parts
import VliwPack.Proofs.Assembly.SingleLine
import VliwPack.Proofs.Assembly.UnitField
import VliwPack.Proofs.Assembly.Reading
import VliwPack.Proofs.Packing.Restarting
import VliwPack.Proofs.Packing.Monotonicity
import VliwPack.Proofs.Packing.Correspondence
import VliwPack.Proofs.Packing.Independence
import VliwPack.Proofs.Symmetry.Datapath
import VliwPack.Proofs.Symmetry.Resolution
import VliwPack.Proofs.Symmetry.Packing
import VliwPack.Proofs.Packing.Run
import VliwPack.Proofs.Heading
import VliwPack.Proofs.Resolution.Reports
import VliwPack.Proofs.Packing.Accounting
import VliwPack.Proofs.Packing.Log
import VliwPack.Proofs.Packing.PseudoInstructions
import VliwPack.Proofs.Packing.WidthLimit
import VliwPack.Proofs.Resolution.OperandScan
import VliwPack.Proofs.Resolution.Description
import VliwPack.Proofs.Resolution.Calls
import VliwPack.Proofs.Json.Grammar
import VliwPack.Proofs.Json.Numbers
import VliwPack.Proofs.Json.Scanning
import VliwPack.Proofs.Json.Documents
import VliwPack.Proofs.Json.Printing
import VliwPack.Proofs.Json.Records
import VliwPack.Proofs.Json.Rewriting
import VliwPack.Proofs.Json.Writing
import VliwPack.Proofs.Instruction.RoundTrip
import VliwPack.Proofs.Instruction.Rewriting
import VliwPack.Proofs.Command.Programs
import VliwPack.Proofs.Command.Composition
import VliwPack.Proofs.Packing.StalePathBits
import VliwPack.Proofs.Recognizer.Candidate
import VliwPack.Proofs.Assembly.HardWired
import VliwPack.Proofs.Assembly.Printability
import VliwPack.Proofs.Assembly.OperandField
import VliwPack.Proofs.Assembly.Markers
import VliwPack.Proofs.Cycle.History
import VliwPack.Proofs.Cycle.Persistence
import VliwPack.Proofs.Recognizer.Effects
import VliwPack.Proofs.Assembly.Address
import VliwPack.Proofs.Resolution.PathBit
import VliwPack.Proofs.Configurations
import VliwPack.Proofs.Packing.Recording
