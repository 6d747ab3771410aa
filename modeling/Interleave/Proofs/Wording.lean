import Interleave.Design
import Interleave.Proofs.Except
import Interleave.Proofs.Hierarchy.CreateText
import Mathlib.Data.List.Forall2

/-!
# What is sent

The other modules speak of statements, and the target reads texts. Here is what each statement says.

* `Strategy.insertText`: the insert that primes a counter, in the form of its strategy.
* `Statement.Says`: the text of a statement, form by form.
* `Statement.says_iff`: **a statement says one thing**, and it is what is sent.
* `Script.Says`: a script of texts has the same batches, with one text for each statement.
* `Schema.scriptText_says`: the texts that are sent are those of the script.
-/

namespace Interleave

/-- The insert that primes a counter table. The strategies differ in case and in blanks. -/
def Strategy.insertText (strategy : Strategy) (table : String) (first : Int64) : String :=
  match strategy with
  | .sequential => "INSERT INTO " ++ table ++ " (next_val) VALUES(" ++ toString first.toInt ++ ")"
  | .bitReversed =>
    "insert into " ++ table ++ " (next_val) values ( " ++ toString first.toInt ++ " )"

namespace Counter

theorem seedText_eq (c : Counter) : c.seedText = c.strategy.insertText c.table c.initialValue := by
  unfold seedText Strategy.insertText
  cases c.strategy <;> rfl

/-- A counter table has one column, and no key, as it holds one row. -/
theorem createText_eq (c : Counter) :
    c.createText = "create table " ++ c.table ++ " (next_val INT64) PRIMARY KEY ()" := by
  have hcolumn : " (next_val " ++ ("INT64" ++ ") PRIMARY KEY ()") =
      " (next_val INT64) PRIMARY KEY ()" := rfl
  have htext : c.createText =
      "create table " ++ c.table ++ " (next_val " ++ "INT64" ++ ") PRIMARY KEY ()" := rfl
  rw [htext, String.append_assoc, String.append_assoc, hcolumn]

end Counter

namespace Statement

/-- What a statement says. -/
inductive Says : Statement → String → Prop
  | dropIndex (name : String) : Says (.dropIndex name) ("drop index " ++ name)
  | dropTable (name : String) : Says (.dropTable name) ("drop table " ++ name)
  | createRoot {p : PlacedTable} (hparent : p.table.parent = none) :
    Says (.createTable p) ("create table " ++ p.name ++
      " (" ++ ",".intercalate (p.shownColumns.map ShownColumn.text) ++ ")" ++
      " PRIMARY KEY (" ++ ",".intercalate p.key ++ ")")
  | createChild {p : PlacedTable} {parent : String} (hparent : p.table.parent = some parent) :
    Says (.createTable p) ("create table " ++ p.name ++
      " (" ++ ",".intercalate (p.shownColumns.map ShownColumn.text) ++ ")" ++
      " PRIMARY KEY (" ++ ",".intercalate p.key ++ ")" ++
      ", INTERLEAVE IN PARENT " ++ parent ++ if p.table.cascade then " ON DELETE CASCADE" else "")
  | createCounter (c : Counter) :
    Says (.createCounter c) ("create table " ++ c.table ++ " (next_val INT64) PRIMARY KEY ()")
  | addIndex (table name : String) (columns : List String) :
    Says (.add (.index table name false columns))
      ("create index " ++ name ++ " on " ++ table ++ " (" ++ ",".intercalate columns ++ ")")
  | addUniqueIndex (table name : String) (columns : List String) :
    Says (.add (.index table name true columns))
      ("create unique index " ++ name ++ " on " ++ table ++ " (" ++ ",".intercalate columns ++ ")")
  | addForeignKey (table name : String) (columns : List String) (references : String)
    (target : List String) :
    Says (.add (.foreignKey table name columns references target))
      ("alter table " ++ table ++ " add constraint " ++ name ++
        " foreign key (" ++ ",".intercalate columns ++ ")" ++
        " references " ++ references ++ " (" ++ ",".intercalate target ++ ")")
  | addCheck (table name expression : String) :
    Says (.add (.check table name expression))
      ("alter table " ++ table ++ " add constraint " ++ name ++ " check (" ++ expression ++ ")")
  | seed (c : Counter) : Says (.seed c) (c.strategy.insertText c.table c.initialValue)

variable {s : Statement} {text : String}

theorem Says.text_eq (h : s.Says text) : s.text = text := by
  cases h with
  | dropIndex | dropTable | addForeignKey | addCheck => rfl
  | createRoot hparent =>
    rw [Statement.text, PlacedTable.createText_shown, PlacedTable.interleaving_of_root hparent,
      String.append_empty]
  | createChild hparent =>
    rw [Statement.text, PlacedTable.createText_shown, PlacedTable.interleaving_of_child hparent]
    simp only [String.append_assoc]
  | createCounter c => exact c.createText_eq
  | addIndex | addUniqueIndex => rfl
  | seed c => exact c.seedText_eq

/-- There is a form for every statement. -/
theorem exists_says (s : Statement) : ∃ text, s.Says text := by
  cases s with
  | dropIndex name => exact ⟨_, .dropIndex name⟩
  | dropTable name => exact ⟨_, .dropTable name⟩
  | createTable p =>
    cases hparent : p.table.parent with
    | none => exact ⟨_, .createRoot hparent⟩
    | some parent => exact ⟨_, .createChild hparent⟩
  | createCounter c => exact ⟨_, .createCounter c⟩
  | add f =>
    cases f with
    | index table name unique columns =>
      cases unique with
      | false => exact ⟨_, .addIndex table name columns⟩
      | true => exact ⟨_, .addUniqueIndex table name columns⟩
    | foreignKey table name columns references target =>
      exact ⟨_, .addForeignKey table name columns references target⟩
    | check table name expression => exact ⟨_, .addCheck table name expression⟩
  | seed c => exact ⟨_, .seed c⟩

/-- **A statement says one thing**, and it is what is sent. -/
theorem says_iff : s.Says text ↔ s.text = text := by
  refine ⟨Says.text_eq, ?_⟩
  rintro rfl
  obtain ⟨text, h⟩ := s.exists_says
  rwa [h.text_eq]

end Statement

/-- A batch of texts belongs to the same phase and has one text for each statement. -/
structure Batch.Says (b : Batch Statement) (sent : Batch String) : Prop where
  phase : sent.phase = b.phase
  statements : List.Forall₂ Statement.Says b.statements sent.statements

/-- A script of texts has a batch of texts for each batch. -/
def Script.Says (script : Script Statement) (sent : Script String) : Prop :=
  List.Forall₂ Batch.Says script.batches sent.batches

theorem Script.says_map_text (script : Script Statement) :
    script.Says (script.map Statement.text) := by
  refine List.forall₂_map_right_iff.2 (List.forall₂_same.2 fun b _ => ⟨rfl, ?_⟩)
  exact List.forall₂_map_right_iff.2 (List.forall₂_same.2 fun s _ => Statement.says_iff.2 rfl)

/-- **What is sent is what the script says.** -/
theorem Schema.scriptText_says {schema : Schema} {existing : Catalog} {action : Action}
    {script : Script Statement} (h : schema.script existing action = .ok script) :
    ∃ sent, schema.scriptText existing action = .ok sent ∧ script.Says sent :=
  ⟨script.map Statement.text, bind_eq_ok.2 ⟨script, h, rfl⟩, script.says_map_text⟩

end Interleave
