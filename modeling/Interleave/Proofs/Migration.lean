import Interleave.Application
import Interleave.Proofs.Delivery
import Interleave.Proofs.Fault

/-!
# Migrations

A migration looks up what exists, writes a script and runs it. Each of the three can fail, and the
failure tells how far the migration came.

* `migrate_of_unread`, `migrate_of_fault`, `migrate_of_script`: which of them the migration comes
  to.
* `migrate_fails_by_stage`: **a refused statement is the only failure that leaves a trace on the
  database.** A migration that fails otherwise has sent nothing; one that succeeds has sent its
  script, and all of it was accepted.
-/

namespace Interleave

variable {c : Connection} {schema : Schema} {existing : Catalog} {action : Action}
  {sent : List String} {script : Script String}

theorem Schema.scriptText_eq_error {e : DesignError} :
    schema.scriptText existing action = .error e ↔ schema.FirstFault e := by
  constructor
  · intro h
    rcases bind_eq_error.1 h with h | ⟨_, _, h⟩
    · exact Schema.script_eq_error.1 h
    · nomatch h
  · intro h
    exact bind_eq_error.2 (.inl (Schema.script_eq_error.2 h))

namespace Connection

theorem catalog_of_ok (h : c.existing sent = .ok existing) :
    c.catalog sent = (.ok existing, sent) := by
  rw [catalog, h]
  rfl

/-- It is not known what exists. -/
theorem migrate_of_unread {cause : ConnectionError} (h : c.existing sent = .error cause) :
    c.migrate schema action sent = (.error (.connection cause), sent) := by
  have hcatalog : c.catalog sent = (.error (.connection cause), sent) := by
    rw [catalog, h]
    rfl
  exact Session.bind_of_error hcatalog

/-- There is no script. -/
theorem migrate_of_fault {e : DesignError} (h : c.existing sent = .ok existing)
    (hscript : schema.scriptText existing action = .error e) :
    c.migrate schema action sent = (.error (.schema e), sent) := by
  refine (Session.bind_of_ok (catalog_of_ok h)).trans ?_
  rw [hscript]
  exact Session.bind_of_error (x := MonadExcept.ofExcept (.error (Failure.schema e))) rfl

/-- There is a script, and it is run. -/
theorem migrate_of_script (h : c.existing sent = .ok existing)
    (hscript : schema.scriptText existing action = .ok script) :
    c.migrate schema action sent = (c.runScript script sent).map (·.mapError .schema) id := by
  refine (Session.bind_of_ok (catalog_of_ok h)).trans ?_
  rw [hscript]
  exact Session.bind_of_ok (x := MonadExcept.ofExcept (.ok script)) rfl

end Connection

/-- **The failure of a migration tells what has reached the database.** Without the existing objects
or with a fault in the schema, nothing has. A statement that was refused is the first one of the
script that was, it is reported with the database's words, and at most an abort marker was sent
after it. If the migration succeeds, the whole script was sent and every statement of it accepted.
-/
theorem migrate_fails_by_stage (c : Connection) (schema : Schema) (action : Action)
    (sent : List String) :
    match c.migrate schema action sent with
    | (.ok _, received) =>
      ∃ existing script, c.existing sent = .ok existing ∧
        schema.scriptText existing action = .ok script ∧
        received = sent ++ script.flatten ∧ c.Accepts sent script.flatten
    | (.error (.schema (.refusedStatement statement words)), received) =>
      ∃ existing script k cause, c.existing sent = .ok existing ∧
        schema.scriptText existing action = .ok script ∧
        c.FirstRefusal sent script.flatten k statement cause ∧ words = cause.message ∧
        (received = sent ++ script.flatten.take k ++ [statement] ∨
          received = sent ++ script.flatten.take k ++ [statement, abortMarker])
    | (.error e, received) =>
      received = sent ∧ ((∃ cause, c.existing sent = .error cause ∧ e = .connection cause) ∨
        ∃ existing fault, c.existing sent = .ok existing ∧ schema.FirstFault fault ∧
        e = .schema fault) := by
  cases hexisting : c.existing sent with
  | error cause =>
    rw [Connection.migrate_of_unread hexisting]
    exact ⟨rfl, .inl ⟨cause, rfl, rfl⟩⟩
  | ok existing =>
    cases hscript : schema.scriptText existing action with
    | error e =>
      rw [Connection.migrate_of_fault hexisting hscript]
      have hfault : schema.FirstFault e := Schema.scriptText_eq_error.1 hscript
      cases e
      case refusedStatement => exact absurd hfault.isFault id
      all_goals exact ⟨rfl, .inr ⟨existing, _, rfl, hfault, rfl⟩⟩
    | ok script =>
      rw [Connection.migrate_of_script hexisting hscript]
      have hrun : Delivery c sent script.flatten script.interior _ (c.runScript script sent) :=
        .script script
      generalize c.runScript script sent = out at hrun
      cases hrun with
      | whole haccepted => exact ⟨existing, script, rfl, hscript, rfl, haccepted⟩
      | @stopped k _ _ hrefusal =>
        refine ⟨existing, script, _, _, rfl, hscript, hrefusal, rfl, ?_⟩
        rw [hrefusal.take_succ]
        cases script.interior k with
        | false => exact .inl (by simp)
        | true => exact .inr (by simp)

end Interleave
