import LocaleFamilies.Bytes
import LocaleFamilies.ChangeList
import LocaleFamilies.CommandLine.Arguments
import LocaleFamilies.CommandLine.Run
import LocaleFamilies.Config.Basic
import LocaleFamilies.Config.Format
import LocaleFamilies.Config.Search
import LocaleFamilies.Decimal.Nearest
import LocaleFamilies.Decimal.Shortest
import LocaleFamilies.Ending
import LocaleFamilies.Family.Basic
import LocaleFamilies.Family.Grouping
import LocaleFamilies.Family.Placement
import LocaleFamilies.FileTree.Access
import LocaleFamilies.FileTree.Basic
import LocaleFamilies.FileTree.Fault
import LocaleFamilies.FileTree.Lookup
import LocaleFamilies.FileTree.Walk
import LocaleFamilies.Glob
import LocaleFamilies.Json.Decoding
import LocaleFamilies.Json.Numeral
import LocaleFamilies.Json.Reading
import LocaleFamilies.Json.Written
import LocaleFamilies.Locale.Declarations
import LocaleFamilies.Locale.Registry
import LocaleFamilies.Locale.Source
import LocaleFamilies.Main
import LocaleFamilies.Path.Basic
import LocaleFamilies.Path.Join
import LocaleFamilies.Path.Normal
import LocaleFamilies.Path.Parts
import LocaleFamilies.Path.Relative
import LocaleFamilies.Project
import LocaleFamilies.Proofs.Path.Components
import LocaleFamilies.Report.Listing
import LocaleFamilies.Report.PassReport
import LocaleFamilies.Report.Style
import LocaleFamilies.Report.Summary
import LocaleFamilies.Scan
import LocaleFamilies.Separated
import LocaleFamilies.Shell.Arithmetic
import LocaleFamilies.Shell.Builtin.Basic
import LocaleFamilies.Shell.Builtin.Control
import LocaleFamilies.Shell.Builtin.Text
import LocaleFamilies.Shell.Builtin.Variables
import LocaleFamilies.Shell.Condition
import LocaleFamilies.Shell.Evaluation
import LocaleFamilies.Shell.Expansion
import LocaleFamilies.Shell.Fields
import LocaleFamilies.Shell.Formatting
import LocaleFamilies.Shell.Host
import LocaleFamilies.Shell.Interpreter
import LocaleFamilies.Shell.Modes
import LocaleFamilies.Shell.Octets
import LocaleFamilies.Shell.Pattern
import LocaleFamilies.Shell.Performing
import LocaleFamilies.Shell.Printing
import LocaleFamilies.Shell.Process
import LocaleFamilies.Shell.Reading
import LocaleFamilies.Shell.Regex
import LocaleFamilies.Shell.RegexSyntax
import LocaleFamilies.Shell.Run
import LocaleFamilies.Shell.State
import LocaleFamilies.Shell.Syntax
import LocaleFamilies.Shell.Utility.Awk
import LocaleFamilies.Shell.Utility.Basic
import LocaleFamilies.Shell.Utility.Columns
import LocaleFamilies.Shell.Utility.Filing
import LocaleFamilies.Shell.Utility.Grep
import LocaleFamilies.Shell.Utility.Listing
import LocaleFamilies.Shell.Utility.Naming
import LocaleFamilies.Shell.Utility.Sed
import LocaleFamilies.Shell.Utility.Telling
import LocaleFamilies.Shell.Utility.Viewing
import LocaleFamilies.Shell.Words
import LocaleFamilies.SortedMap
import LocaleFamilies.Text.Blank
import LocaleFamilies.Text.Printable
import LocaleFamilies.Text.Quoted
import LocaleFamilies.Text.Ranges
import LocaleFamilies.Text.Width
import LocaleFamilies.Text.WordClass
import LocaleFamilies.Total
import LocaleFamilies.Translation.Backend
import LocaleFamilies.Translation.Election
import LocaleFamilies.Translation.Execution
import LocaleFamilies.Translation.Pass
import LocaleFamilies.Translation.Plan
import LocaleFamilies.Translation.Program
import LocaleFamilies.Translation.Request
import LocaleFamilies.Translation.Session
import LocaleFamilies.Workspace
import LocaleFamilies.Proofs.Path.Parts
import LocaleFamilies.Proofs.Bytes
import LocaleFamilies.Proofs.Family.Slot
import LocaleFamilies.Proofs.Family.Grouping
import LocaleFamilies.Proofs.Translation.Plans
import LocaleFamilies.Proofs.Family.Naming
import LocaleFamilies.Proofs.Translation.Destination
import LocaleFamilies.Proofs.Translation.Writes
import LocaleFamilies.Proofs.Translation.Convergence
import LocaleFamilies.Proofs.FileTree.Travel
import LocaleFamilies.Proofs.FileTree.Walk
import LocaleFamilies.Proofs.Translation.Trace
import LocaleFamilies.Proofs.FileTree.Growth
import LocaleFamilies.Proofs.Translation.Overlooked
import LocaleFamilies.Proofs.Translation.Creation
import LocaleFamilies.Proofs.Translation.Partition
import LocaleFamilies.Proofs.Translation.Attempt
import LocaleFamilies.Proofs.Translation.Protocol
import LocaleFamilies.Proofs.Translation.Forecast
import LocaleFamilies.Proofs.Translation.Unanswered
import LocaleFamilies.Proofs.Family.Accounting
import LocaleFamilies.Proofs.ChangeList.Affected
import LocaleFamilies.Proofs.Translation.Election
import LocaleFamilies.Proofs.Translation.Agreement
import LocaleFamilies.Proofs.Path.Relative
import LocaleFamilies.Proofs.Path.Normal
import LocaleFamilies.Proofs.ChangeList.Printed
import LocaleFamilies.Proofs.Translation.Order
import LocaleFamilies.Proofs.Translation.Separation
import LocaleFamilies.Proofs.CommandLine.Course
import LocaleFamilies.Proofs.Json.RoundTrip
import LocaleFamilies.Proofs.Translation.Wire
import LocaleFamilies.Proofs.Family.Distinction
import LocaleFamilies.Proofs.Scan.Exactness
import LocaleFamilies.Proofs.Translation.SingleEdit
import LocaleFamilies.Proofs.Scan.Overlap
import LocaleFamilies.Proofs.Path.Canonical
import LocaleFamilies.Proofs.Translation.Directory
import LocaleFamilies.Proofs.Locale.Reading
import LocaleFamilies.Proofs.Locale.Layout
import LocaleFamilies.Proofs.Config.RoundTrip
import LocaleFamilies.Proofs.Config.Search
import LocaleFamilies.Proofs.Scan.Validated
import LocaleFamilies.Proofs.Scan.Relocation
import LocaleFamilies.Proofs.Report.Outline
import LocaleFamilies.Proofs.Report.Totals
import LocaleFamilies.Proofs.Report.Wording
import LocaleFamilies.Proofs.Report.Labels
import LocaleFamilies.Proofs.Report.Audit
import LocaleFamilies.Proofs.Report.Wording
import LocaleFamilies.Proofs.Report.Labels
