import Interleave.Digest.Md5
import Interleave.Numeral
import Interleave.Text.LowerCase

/-!
# Derived names

A constraint without a name of its own gets one from what it constrains. The name is a short mark of
the kind of object followed by a digest, so it is stable from run to run and does not depend on the
order in which columns are listed.

* `base35`: a number in the digits 0–9 and a–y.
* `columnOrder`: ignoring case first, exact spelling second.
* `indexIdentity`, `foreignKeyIdentity`, `checkIdentity`: the texts that are hashed.
* `ofIdentity`: the digest of a text, in base 35.
* `index`, `foreignKey`, `check`: the names.
-/

namespace Interleave.DerivedName

/-- The digit of value `d`, for `d < 35`. -/
def base35Digit (d : Nat) : Char :=
  if d < 10 then Char.ofNat ('0'.toNat + d) else Char.ofNat ('a'.toNat + (d - 10))

def base35 (n : Nat) : String :=
  String.ofList ((Numeral.digits 35 n).map base35Digit)

def ofIdentity (identity : String) : String :=
  base35 (Md5.digest identity.toUTF8.toList)

/-- `a` does not come after `b`. -/
def columnOrder (a b : String) : Bool :=
  let x := Text.lowerCase a
  let y := Text.lowerCase b
  x < y || (x == y && a ≤ b)

/-- Each name between a word that says what it names and a closing backtick. -/
def columnsIdentity (columns : List String) : String :=
  String.join ((columns.mergeSort columnOrder).map fun c => "column`" ++ c ++ "`")

def indexIdentity (table : String) (columns : List String) : String :=
  "table`" ++ table ++ "`" ++ columnsIdentity columns

def foreignKeyIdentity (table references : String) (columns : List String) : String :=
  "table`" ++ table ++ "`references`" ++ references ++ "`" ++ columnsIdentity columns

def checkIdentity (table expression : String) : String :=
  "table`" ++ table ++ "`check`" ++ expression ++ "`"

/-- The mark of a unique index. -/
def uniqueMark : String := "UK_"

/-- The mark of a plain index. -/
def indexMark : String := "IDX_"

/-- The mark of a foreign key. -/
def foreignKeyMark : String := "FK"

/-- The mark of a check. -/
def checkMark : String := "CK_"

def index (mark table : String) (columns : List String) : String :=
  mark ++ ofIdentity (indexIdentity table columns)

def foreignKey (table references : String) (columns : List String) : String :=
  foreignKeyMark ++ ofIdentity (foreignKeyIdentity table references columns)

def check (table expression : String) : String :=
  checkMark ++ ofIdentity (checkIdentity table expression)

end Interleave.DerivedName
