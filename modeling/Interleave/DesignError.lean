import Interleave.Diagnostic
import Interleave.Draft.Stage

/-!
# What can go wrong with a design

* `Refusal`: why a constraint has no counterpart on the target.
* `DesignError`: what can be wrong with a schema, with the order of calls, or with a statement that
  was sent.
* `DesignError.message`, `DesignError.diagnostic`: the error in a sentence, and as a report.
-/

namespace Interleave

inductive Refusal where
  | indexWithoutColumns
  | foreignKeyWithoutColumns
  /-- The foreign key has `given` columns, and `references` offers `offered`. -/
  | arityMismatch (given : Nat) (references : String) (offered : Nat)
  | readsOtherTable (table : String)
  | emptyExpression
deriving DecidableEq

def Refusal.message : Refusal → String
  | .indexWithoutColumns => "index without columns"
  | .foreignKeyWithoutColumns => "foreign key without columns"
  | .arityMismatch given references offered =>
    "foreign key has " ++ toString given ++ " columns but " ++ references ++ " references " ++
      toString offered
  | .readsOtherTable table => "check constraint reads another table '" ++ table ++ "'"
  | .emptyExpression => "empty check expression"

inductive DesignError where
  | unsupportedConstraint (table : String) (reason : Refusal)
  /-- Each table is the child of the next. -/
  | cyclicHierarchy (tables : List String)
  | missingPrimaryKey (table : String)
  | unknownTable (table : String)
  | unknownColumn (table column : String)
  | duplicateTable (table : String)
  | conflictingSequence (table : String)
  | invalidTransition (source : Stage) (target : Goal)
  | refusedStatement (statement cause : String)
deriving DecidableEq

namespace DesignError

/-- The target refused a statement; every other error arises before anything is sent. -/
def isRefusedStatement : DesignError → Bool
  | .refusedStatement _ _ => true
  | _ => false

def message : DesignError → String
  | .unsupportedConstraint table reason =>
    "Unsupported constraint on table '" ++ table ++ "': " ++ reason.message
  | .cyclicHierarchy tables => "Cyclic interleave hierarchy: " ++ " -> ".intercalate tables
  | .missingPrimaryKey table => "Table '" ++ table ++ "' has no primary key columns"
  | .unknownTable table => "Table '" ++ table ++ "' is referenced but not declared"
  | .unknownColumn table column =>
    "Column '" ++ column ++ "' is not declared on table '" ++ table ++ "'"
  | .duplicateTable table => "Table '" ++ table ++ "' is declared more than once"
  | .conflictingSequence table =>
    "Sequence table '" ++ table ++ "' is declared with conflicting settings"
  | .invalidTransition source target =>
    "Invalid batch transition from " ++ source.label ++ " to " ++ target.label
  | .refusedStatement statement cause =>
    "Schema execution failed at '" ++ statement ++ "': " ++ cause

def diagnostic : DesignError → Diagnostic
  | .unsupportedConstraint table reason =>
    ⟨"UnsupportedConstraint", [("table", .text table), ("reason", .text reason.message)]⟩
  | .cyclicHierarchy tables => ⟨"CyclicHierarchy", [("tables", .texts tables)]⟩
  | .missingPrimaryKey table => ⟨"MissingPrimaryKey", [("table", .text table)]⟩
  | .unknownTable table => ⟨"UnknownTable", [("table", .text table)]⟩
  | .unknownColumn table column =>
    ⟨"UnknownColumn", [("table", .text table), ("column", .text column)]⟩
  | .duplicateTable table => ⟨"DuplicateTable", [("table", .text table)]⟩
  | .conflictingSequence table => ⟨"ConflictingSequence", [("table", .text table)]⟩
  | .invalidTransition source target =>
    ⟨"InvalidTransition", [("from", .text source.label), ("to", .text target.label)]⟩
  | .refusedStatement statement cause =>
    ⟨"SchemaExecutionFailure", [("statement", .text statement), ("cause", .text cause)]⟩

end DesignError

end Interleave
