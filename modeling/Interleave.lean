import Interleave.Application
import Interleave.Batch
import Interleave.Catalog
import Interleave.CommandLine.Arguments
import Interleave.CommandLine.Invocation
import Interleave.CommandLine.Option
import Interleave.Connection
import Interleave.Counter
import Interleave.DerivedName
import Interleave.Design
import Interleave.DesignError
import Interleave.Diagnostic
import Interleave.Digest.Md5
import Interleave.Draft
import Interleave.Draft.Stage
import Interleave.Execution
import Interleave.Failure
import Interleave.Files
import Interleave.Fragment
import Interleave.Hierarchy.Cycle
import Interleave.Hierarchy.Directory
import Interleave.Hierarchy.Layout
import Interleave.Json.Decode
import Interleave.Json.Literal
import Interleave.Json.Reader
import Interleave.Json.Scanner
import Interleave.Json.Token
import Interleave.Json.Value
import Interleave.Json.Writer
import Interleave.Main
import Interleave.Numeral
import Interleave.Numeral.Double
import Interleave.Proofs.Catalog
import Interleave.Proofs.Counter
import Interleave.Proofs.Counter.Agreement
import Interleave.Proofs.Creation
import Interleave.Proofs.Delivery
import Interleave.Proofs.DerivedName
import Interleave.Proofs.DerivedName.Digest
import Interleave.Proofs.Design
import Interleave.Proofs.DialString
import Interleave.Proofs.Document
import Interleave.Proofs.Draft
import Interleave.Proofs.Draft.Calls
import Interleave.Proofs.DryRun
import Interleave.Proofs.Except
import Interleave.Proofs.Fault
import Interleave.Proofs.Fragment
import Interleave.Proofs.Fragment.Acceptance
import Interleave.Proofs.Grouping
import Interleave.Proofs.Hierarchy.Acceptance
import Interleave.Proofs.Hierarchy.Ancestry
import Interleave.Proofs.Hierarchy.CreateText
import Interleave.Proofs.Hierarchy.Cycle
import Interleave.Proofs.Hierarchy.CycleReport
import Interleave.Proofs.Hierarchy.Directory
import Interleave.Proofs.Hierarchy.Key
import Interleave.Proofs.Hierarchy.PassOrder
import Interleave.Proofs.Hierarchy.Placement
import Interleave.Proofs.Hierarchy.Progress
import Interleave.Proofs.Hierarchy.Rearrangement
import Interleave.Proofs.Hierarchy.Siblings
import Interleave.Proofs.Identifier
import Interleave.Proofs.Json.Form
import Interleave.Proofs.Json.Integer
import Interleave.Proofs.Json.Reader
import Interleave.Proofs.Json.Scanner
import Interleave.Proofs.Json.Writer
import Interleave.Proofs.Legible
import Interleave.Proofs.Lifetime
import Interleave.Proofs.Migration
import Interleave.Proofs.Numeral
import Interleave.Proofs.Objects
import Interleave.Proofs.Precedes
import Interleave.Proofs.Removal
import Interleave.Proofs.Removal.Listing
import Interleave.Proofs.Removal.Repeats
import Interleave.Proofs.Seeding
import Interleave.Proofs.SharedCounter
import Interleave.Proofs.SharedNames
import Interleave.Proofs.Target
import Interleave.Proofs.TargetType
import Interleave.Proofs.TargetType.Leaf
import Interleave.Report
import Interleave.Report.Basic
import Interleave.Report.Toon
import Interleave.Schema
import Interleave.Schema.Document
import Interleave.Schema.Table
import Interleave.Settings
import Interleave.Settings.Database
import Interleave.Settings.Error
import Interleave.Settings.SharedCounter
import Interleave.Statement
import Interleave.TargetType
import Interleave.Text.Capitals
import Interleave.Text.Casing
import Interleave.Text.CharSet
import Interleave.Text.LowerCase
import Interleave.Text.Visible
