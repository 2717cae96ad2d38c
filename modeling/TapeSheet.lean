import TapeSheet.Text.Decimal
import TapeSheet.Text.Printable
import TapeSheet.Text.Quoted
import TapeSheet.Text.Numeral
import TapeSheet.Text
import TapeSheet.Text.Case
import TapeSheet.Text.Base64
import TapeSheet.Binary64
import TapeSheet.Binary64.Text
import TapeSheet.Value
import TapeSheet.Value.Text
import TapeSheet.Json.Printer
import TapeSheet.Json.Reader
import TapeSheet.Path
import TapeSheet.Fault
import TapeSheet.Rule
import TapeSheet.Tape
import TapeSheet.Reduction
import TapeSheet.Reduction.Batch
import TapeSheet.Window
import TapeSheet.Selector
import TapeSheet.CellRule
import TapeSheet.Sheet
import TapeSheet.Stylesheet
import TapeSheet.Rendering
import TapeSheet.Accuracy
import TapeSheet.RandomBits
import TapeSheet.Preset
import TapeSheet.Limited
import TapeSheet.Disk
import TapeSheet.Disk.Appender
import TapeSheet.Yaml.Cursor
import TapeSheet.Yaml.Scalar
import TapeSheet.Yaml.Token
import TapeSheet.Yaml.Tag
import TapeSheet.Yaml.Node
import TapeSheet.Yaml.Merge
import TapeSheet.Yaml.ScalarValue
import TapeSheet.Yaml.Document
import TapeSheet.Value.Order
import TapeSheet.Value.Scatter
import TapeSheet.Grid
import TapeSheet.Grid.Document
import TapeSheet.CommandLine
import TapeSheet.BuildFiles
import TapeSheet.Summary
import TapeSheet.Command.Session
import TapeSheet.Command.Compile
import TapeSheet.Command.Verify
import TapeSheet.Command.Batch
import TapeSheet.Value.Calendar
import TapeSheet.Main
import TapeSheet.Proofs.LightCone
import TapeSheet.Proofs.Enumeration
import TapeSheet.Proofs.Composition
import TapeSheet.Proofs.Unfolding
import TapeSheet.Proofs.ManyWindows
import TapeSheet.Proofs.Cover
import TapeSheet.Proofs.Reach
import TapeSheet.Proofs.Compilation
import TapeSheet.Proofs.Display
import TapeSheet.Proofs.Scoring
import TapeSheet.Proofs.Rounding
import TapeSheet.Proofs.Accuracies
import TapeSheet.Proofs.Page
import TapeSheet.Proofs.Names
import TapeSheet.Proofs.SelectorReading
import TapeSheet.Proofs.BlockReading
import TapeSheet.Proofs.Selection
import TapeSheet.Proofs.Frontier
import TapeSheet.Proofs.CanonicalForm
import TapeSheet.Proofs.Files
import TapeSheet.Proofs.Sessions
import TapeSheet.Proofs.JsonReading
import TapeSheet.Proofs.Loss
import TapeSheet.Proofs.RecordReading
import TapeSheet.Proofs.SheetReading
import TapeSheet.Proofs.Phases
import TapeSheet.Proofs.Refusals
import TapeSheet.Proofs.ValueReading
import TapeSheet.Proofs.LogReading
import TapeSheet.Proofs.CompileRun
import TapeSheet.Proofs.Frames
import TapeSheet.Proofs.Building
import TapeSheet.Proofs.BatchRun
import TapeSheet.Proofs.TableReading
import TapeSheet.Proofs.Recording
import TapeSheet.Proofs.Lockstep
import TapeSheet.Proofs.Histories
import TapeSheet.Proofs.Capping
import TapeSheet.Proofs.Validation
import TapeSheet.Proofs.Reports
import TapeSheet.Proofs.Counting
import TapeSheet.Proofs.Surveys
import TapeSheet.Proofs.Translation
import TapeSheet.Proofs.Workload
import TapeSheet.Proofs.Equality
import TapeSheet.Proofs.Agreement
import TapeSheet.Proofs.PresetRows
import TapeSheet.Proofs.Resolution
import TapeSheet.Proofs.RoundTrip
import TapeSheet.Proofs.LogRuns
import TapeSheet.Proofs.TokenFaults
import TapeSheet.Proofs.DocumentFaults
import TapeSheet.Proofs.ConfigFaults
