import Interleave.Json.Writer
import Interleave.Report.Toon

/-!
# Writing reports

* `GenerateReport.table`, `ApplyReport.table`: the reports as lines of text, for people.
* `numbered`: statements behind their numbers, which are aligned to the right.
* `GenerateReport.json`, `ApplyReport.json`: the reports as documents, with their fields in order.
* `GenerateReport.render`, `ApplyReport.render`: a report in the wanted format.
-/

namespace Interleave

/-- Blanks before a text until it is `width` characters long. -/
def padLeft (width : Nat) (text : String) : String :=
  String.ofList (List.replicate (width - text.length) ' ') ++ text

/-- Blanks after a text until it is `width` characters long. -/
def padRight (width : Nat) (text : String) : String :=
  text ++ String.ofList (List.replicate (width - text.length) ' ')

def numbered (statements : List String) : List String :=
  let width := (toString statements.length).length
  statements.mapIdx fun i statement => padLeft width (toString (i + 1)) ++ ". " ++ statement

def GenerateReport.table (r : GenerateReport) : String :=
  let head := "Schema script (" ++ r.action.label ++ "): " ++ toString r.batches.length ++
    " batches, " ++ toString r.total ++ " statements"
  "\n".intercalate (head :: r.batches.flatMap fun b =>
    "" :: ("-- " ++ b.phase.label ++ " batch") :: b.withMarkers)

def ApplyReport.table (r : ApplyReport) : String :=
  let mode := if r.dryRun then "dry run" else "applied"
  let head := "Schema " ++ mode ++ " (" ++ r.action.label ++ ") on " ++ r.backend ++ ": " ++
    toString r.total ++ " statements"
  let batches := r.batches.map fun b =>
    "  " ++ padRight 7 b.phase.label ++ " " ++ toString b.statements
  let statements :=
    if r.statements.isEmpty then [] else "" :: "Statements:" :: numbered r.statements
  "\n".intercalate (head :: batches ++ statements)

/-- An object of named fields. -/
def Json.ofFields (fields : List (String × Json)) : Json :=
  .object (fields.map fun (key, j) => (some key, j))

def Json.ofTexts (texts : List String) : Json :=
  .array (texts.map .ofText)

def GenerateReport.json (r : GenerateReport) : Json :=
  let batch (b : Batch String) : Json :=
    .ofFields [("kind", .ofText b.phase.label), ("statements", .ofTexts b.statements)]
  .ofFields [
    ("action", .ofText r.action.label),
    ("total_statements", .ofNat r.total),
    ("batches", .array (r.batches.map batch))]

/-- Without statements there is no field for them. -/
def ApplyReport.json (r : ApplyReport) : Json :=
  let batch (b : BatchOutcome) : Json :=
    .ofFields [("kind", .ofText b.phase.label), ("statements", .ofNat b.statements)]
  .ofFields ([
    ("action", .ofText r.action.label),
    ("backend", .ofText r.backend),
    ("dry_run", .bool r.dryRun),
    ("total_statements", .ofNat r.total),
    ("batches", .array (r.batches.map batch))] ++
    if r.statements.isEmpty then [] else [("statements", .ofTexts r.statements)])

def GenerateReport.render (r : GenerateReport) : Format → String
  | .table => r.table
  | .json => r.json.pretty
  | .toon => r.toon

def ApplyReport.render (r : ApplyReport) : Format → String
  | .table => r.table
  | .json => r.json.pretty
  | .toon => r.toon

end Interleave
