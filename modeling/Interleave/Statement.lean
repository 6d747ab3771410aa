import Interleave.Counter
import Interleave.Fragment

/-!
# Statements

* `Statement`: what a script tells the target to do.
* `Statement.text`: the statement as it is sent.
* `Fragment.drop?`: the statement that drops an object by its name.
-/

namespace Interleave

inductive Statement where
  | dropIndex (name : String)
  | dropTable (name : String)
  | createTable (placed : PlacedTable)
  | createCounter (counter : Counter)
  | add (fragment : Fragment)
  | seed (counter : Counter)
deriving DecidableEq

def Statement.text : Statement → String
  | .dropIndex name => "drop index " ++ name
  | .dropTable name => "drop table " ++ name
  | .createTable placed => placed.createText
  | .createCounter counter => counter.createText
  | .add fragment => fragment.createText
  | .seed counter => counter.seedText

/-- Only indexes are dropped by name; the other objects go with their tables. -/
def Fragment.drop? : Fragment → Option Statement
  | .index _ name _ _ => some (.dropIndex name)
  | _ => none

end Interleave
