import Interleave.Text.Capitals
import Interleave.Text.Casing

/-!
# Lower case

Names are compared ignoring case, and this file says how: by their lower-case forms.

* `lowerCase`: the lower-case form of a text, by the full mapping of Unicode.
* `sameName`: two names denote one object.

Two letters need more than the table of `smallLetter`. The dotted capital I becomes two characters,
and a capital sigma becomes `ς` where a word ends and `σ` elsewhere.
-/

namespace Interleave.Text

/-- Past ignorable characters, the text goes on with a cased letter. -/
def meetsCasedLetter (text : List Char) : Bool :=
  match text.dropWhile caseIgnorable.contains with
  | c :: _ => casedLetters.contains c
  | [] => false

/-- The lower-case form of `c`, which stands after `before` (nearest character first) and before
`after`. -/
def lowerCaseAt (before : List Char) (c : Char) (after : List Char) : List Char :=
  if c = 'Σ' then
    if meetsCasedLetter before && !meetsCasedLetter after then ['ς'] else ['σ']
  else if c = 'İ' then ['i', '\u0307']
  else [smallLetter c]

/-- Lower-case every character of the second text, the first being what precedes it, reversed. -/
def lowerCaseFrom (before : List Char) : List Char → List Char
  | [] => []
  | c :: after => lowerCaseAt before c after ++ lowerCaseFrom (c :: before) after

def lowerCase (text : String) : String :=
  String.ofList (lowerCaseFrom [] text.toList)

/-- The names are equal ignoring case. -/
def sameName (a b : String) : Bool :=
  lowerCase a == lowerCase b

@[simp]
theorem sameName_iff {a b : String} : sameName a b = true ↔ lowerCase a = lowerCase b :=
  beq_iff_eq

end Interleave.Text
