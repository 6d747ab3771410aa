import Interleave.Proofs.Migration

/-!
# Dry runs

A dry run carries a script out on a recorder, which accepts whatever it is sent. Generating a script
runs nothing. Still both tell the same.

* `Connection.runScript_of_accepting`: where everything is accepted, a script is sent whole.
* `GenerateReport.recorded`: what a dry run has to report of a generated script.
* `applyReport_of_dry`: a dry run reports exactly that.
* `Command.Agree`: a generation and a dry run have come to the same.
* `Command.dry_run_agrees`: **whatever is in the file, a generation without existing objects and a
  dry run agree.**
-/

namespace Interleave

variable {c : Connection} {schema : Schema} {action : Action} {sent : List String}

theorem Connection.runScript_of_accepting (h : ∀ sent statement, c.answer sent statement = .ok ())
    (s : Script String) : c.runScript s sent =
      (.ok ⟨c.backend, s.batches.map fun b => ⟨b.phase, b.statements.length⟩⟩,
        sent ++ s.flatten) := by
  have hrun : Delivery c sent s.flatten s.interior _ (c.runScript s sent) := .script s
  generalize c.runScript s sent = out at hrun
  cases hrun with
  | whole => rfl
  | stopped hrefusal =>
    have hrefused := hrefusal.refused
    rw [h] at hrefused
    nomatch hrefused

/-- What a dry run reports of the script. -/
def GenerateReport.recorded (g : GenerateReport) : ApplyReport where
  action := g.action
  backend := "Recording"
  dryRun := true
  total := g.total
  batches := g.batches.map fun b => ⟨b.phase, b.statements.length⟩
  statements := g.batches.flatMap Batch.withMarkers

/-- A recorder holds nothing and refuses nothing. -/
theorem migrate_recorder : (Recorder.connection {}).migrate schema action [] =
    match schema.scriptText {} action with
    | .ok script =>
      (.ok ⟨"Recording", script.batches.map fun b => ⟨b.phase, b.statements.length⟩⟩,
        script.flatten)
    | .error e => (.error (.schema e), []) := by
  cases hscript : schema.scriptText {} action with
  | ok script =>
    rw [Connection.migrate_of_script rfl hscript, Connection.runScript_of_accepting fun _ _ => rfl]
    rfl
  | error e => rw [Connection.migrate_of_fault rfl hscript]

namespace Command

variable {setup : Setup} {dial : Dialer} {dryRun : Bool}

/-- A dry run reports of the script that would be generated for an empty database. -/
theorem applyReport_of_dry (hdry : dryRun = true ∨ (setup.database.getD .dryRun).runsDry = true) :
    applyReport setup dial schema action dryRun =
      (generateReport setup schema action (.ofNames [] [])).map GenerateReport.recorded := by
  have hcond : (dryRun || (setup.database.getD .dryRun).runsDry) = true :=
    Bool.or_eq_true_iff.2 hdry
  have hempty : Catalog.ofNames [] [] = {} := rfl
  unfold applyReport generateReport
  simp only [hcond, if_true, migrate_recorder, hempty]
  cases (setup.sequence.apply schema).scriptText {} action with
  | error e => rfl
  | ok script =>
    -- the recorder counts what it was sent, the generation what it wrote
    have htotal := RunOutcome.size_of_batches "Recording" script
    exact congrArg
      (fun n => Except.ok (⟨action, "Recording", true, n,
        script.batches.map fun b => ⟨b.phase, b.statements.length⟩, script.flatten⟩ : ApplyReport))
      htotal

/-- A generation and a dry run have come to the same: to the same failure, or to the same statements
in the same batches. The dry run has the markers as well. -/
inductive Agree : Except Failure GenerateReport → Except Failure ApplyReport → Prop
  | failed (e : Failure) : Agree (.error e) (.error e)
  | done {generated : GenerateReport} {applied : ApplyReport}
    (statements : applied.statements = generated.batches.flatMap Batch.withMarkers)
    (total : applied.total = generated.total)
    (batches : applied.batches = generated.batches.map fun b => ⟨b.phase, b.statements.length⟩) :
    Agree (.ok generated) (.ok applied)

/-- **A generation without existing objects and a dry run agree**, whatever is in the file, whatever
the counter that sequences share, and whatever the action. -/
theorem dry_run_agrees (setup : Setup) (files : Files) (dial : Dialer) (path : String)
    (action : Action) (dryRun : Bool)
    (hdry : dryRun = true ∨ (setup.database.getD .dryRun).runsDry = true) :
    Agree (do generateReport setup (← readSchema files path) action (.ofNames [] []))
      (do applyReport setup dial (← readSchema files path) action dryRun) := by
  cases readSchema files path with
  | error e => exact .failed e
  | ok schema =>
    change Agree (generateReport setup schema action (.ofNames [] []))
      (applyReport setup dial schema action dryRun)
    rw [applyReport_of_dry hdry]
    cases generateReport setup schema action (.ofNames [] []) with
    | error e => exact .failed e
    | ok generated => exact .done rfl rfl rfl

/-- A file with one table that takes its keys from the shared counter. -/
def accounts : Files
  | "accounts.json" =>
    some (.file ("\x7b\"tables\": [\x7b\"name\": \"Account\", \"primary_key\": [\"Id\"], " ++
      "\"columns\": [\x7b\"name\": \"Id\", \"type\": \"int64\"\x7d]\x7d], " ++
      "\"sequences\": [\x7b\"name\": \"hibernate_sequence\"\x7d]\x7d").toUTF8)
  | _ => none

/-- A database is configured, and another counter. -/
def accountSetup : Setup where
  database := some (.postgres {})
  sequence := { sharedTable := "account_ids", initialValue := 100 }

def generatedAccounts : Except Failure GenerateReport := do
  generateReport accountSetup (← readSchema accounts "accounts.json") .replace (.ofNames [] [])

/-- The configured database is not asked. -/
def appliedAccounts : Except Failure ApplyReport := do
  applyReport accountSetup (fun _ => .error "unreachable") (← readSchema accounts "accounts.json")
    .replace true

theorem dry_run_agrees_on_accounts : ∃ generated applied,
    generatedAccounts = .ok generated ∧ appliedAccounts = .ok applied ∧ generated.total = 3 ∧
      applied.total = 3 ∧
      applied.statements = generated.batches.flatMap Batch.withMarkers := by
  have hagrees : Agree generatedAccounts appliedAccounts :=
    dry_run_agrees accountSetup accounts (fun _ => .error "unreachable") "accounts.json" .replace
      true (.inl rfl)
  obtain ⟨generated, hgenerated, htotal⟩ :=
    exists_ok_of_any (x := generatedAccounts) (p := (·.total = 3)) (by decide +kernel)
  rw [hgenerated] at hagrees
  generalize appliedAccounts = result at hagrees ⊢
  cases hagrees with
  | done hstatements hsame _ =>
    have htotal := of_decide_eq_true htotal
    exact ⟨generated, _, hgenerated, rfl, htotal, hsame.trans htotal, hstatements⟩

end Command

end Interleave
