import RobotProgram.Cli.Command
import RobotProgram.Config.Layer
import RobotProgram.Config.Load
import RobotProgram.Config.Settings
import RobotProgram.Controller.Deploy
import RobotProgram.Controller.Handle
import RobotProgram.Controller.Scan
import RobotProgram.Controller.Scenario
import RobotProgram.Controller.Session
import RobotProgram.Controller.Simulated
import RobotProgram.Controller.Value
import RobotProgram.Decimal.Layout
import RobotProgram.Decimal.Reading
import RobotProgram.Decimal.Shortest
import RobotProgram.Error
import RobotProgram.Job.Basic
import RobotProgram.Job.Reading
import RobotProgram.Literal.Basic
import RobotProgram.Literal.Reader
import RobotProgram.LocalFiles
import RobotProgram.LogLevel
import RobotProgram.Main
import RobotProgram.Motion.Catalog
import RobotProgram.Motion.Pose
import RobotProgram.Motion.Pose.Reading
import RobotProgram.Program.Broadcast
import RobotProgram.Program.Compile
import RobotProgram.Program.Data
import RobotProgram.Program.Instruction
import RobotProgram.Program.Module
import RobotProgram.Program.WorldZone
import RobotProgram.Text.Blank
import RobotProgram.Text.Escaped
import RobotProgram.Text.Json
import RobotProgram.Text.Word
import RobotProgram.Toml.Document
import RobotProgram.Toml.Error
import RobotProgram.Toml.Lexical
import RobotProgram.Toml.Print
import RobotProgram.Toml.Value
import RobotProgram.Tracking.Tracker
import RobotProgram.Tracking.Window
import RobotProgram.Proofs.Compilation
import RobotProgram.Proofs.StreamingWindow
import RobotProgram.Proofs.Session
import RobotProgram.Proofs.Mastership
import RobotProgram.Proofs.NumberText
import RobotProgram.Proofs.LiteralText
import RobotProgram.Proofs.PoseText
import RobotProgram.Proofs.Splicing
import RobotProgram.Proofs.Quantizing
import RobotProgram.Proofs.LiteralGrammar
import RobotProgram.Proofs.LiteralSpelling
import RobotProgram.Proofs.Rounding
import RobotProgram.Proofs.ShortestDigits
import RobotProgram.Proofs.FloatText
import RobotProgram.Proofs.ValueText
import RobotProgram.Proofs.Connection
import RobotProgram.Proofs.Validation
import RobotProgram.Proofs.Workflows
import RobotProgram.Proofs.ModuleScan
import RobotProgram.Proofs.ModuleText
import RobotProgram.Proofs.DeclaredNames
import RobotProgram.Proofs.FileWrites
import RobotProgram.Proofs.ModuleLoad
import RobotProgram.Proofs.SortedSplice
import RobotProgram.Proofs.WindowProgress
import RobotProgram.Proofs.NamedValues
import RobotProgram.Proofs.PointerLog
import RobotProgram.Proofs.Deployment
import RobotProgram.Proofs.NearestEntry
import RobotProgram.Proofs.ControllerCalls
import RobotProgram.Proofs.Unwrapping
