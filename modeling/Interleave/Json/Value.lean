import Interleave.Numeral

/-!
# JSON values

A value keeps what its text said and no more is decided: numbers stay in digits, members stay in
order and may repeat.

* `Json`: the values. A string may hold half of a surrogate pair; then it denotes no text.
* `Json.Literal`: a number as written; `Literal.integer?` is the integer that a plain literal
  denotes.
* `Json.ofNat`, `Json.ofText`: values to be written.
-/

namespace Interleave

/-- A number as written. The digits are values below ten. -/
structure Json.Literal where
  negative : Bool := false
  whole : List Nat
  fraction : Option (List Nat) := none
  /-- Whether the exponent is negative, and its digits. -/
  exponent : Option (Bool × List Nat) := none
deriving DecidableEq

inductive Json where
  | null
  | bool (value : Bool)
  | number (literal : Json.Literal)
  /-- No text: the string has half of a surrogate pair in it. -/
  | string (text : Option String)
  | array (items : List Json)
  | object (members : List (Option String × Json))

namespace Json

/-- Only a literal without fraction and exponent counts as an integer, and `-0` does not. -/
def Literal.integer? (l : Literal) : Option Int :=
  let n := Numeral.value 10 l.whole
  if l.fraction.isSome || l.exponent.isSome then none
  else if l.negative then (if n = 0 then none else some (-n)) else some n

def ofNat (n : Nat) : Json :=
  .number { whole := Numeral.digits 10 n }

def ofText (text : String) : Json :=
  .string (some text)

end Json

end Interleave
