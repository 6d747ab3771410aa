import Interleave.Json.Value

/-!
# JSON tokens

* `Token`: the words of a JSON text.
* `Literal.parse?`: the grammar of numbers.
* `joinUnits`: escapes in a string stand for UTF-16 units, which form a text if every surrogate has
  its other half right beside it.
-/

namespace Interleave.Json

inductive Token where
  | openObject
  | closeObject
  | openArray
  | closeArray
  | colon
  | comma
  | null
  | bool (value : Bool)
  | number (literal : Literal)
  | string (text : Option String)
deriving DecidableEq

/-- A piece of a string: a character, or a UTF-16 unit escaped by its number. -/
inductive Piece where
  | char (c : Char)
  | unit (n : Nat)
deriving DecidableEq

def isHighSurrogate (n : Nat) : Bool :=
  0xD800 ≤ n && n < 0xDC00

def isLowSurrogate (n : Nat) : Bool :=
  0xDC00 ≤ n && n < 0xE000

/-- The characters that the pieces stand for. -/
def joinUnits : List Piece → Option (List Char)
  | [] => some []
  | .char c :: rest => (joinUnits rest).map (c :: ·)
  | .unit high :: rest =>
    if isHighSurrogate high then
      match rest with
      | .unit low :: rest =>
        if isLowSurrogate low then
          (joinUnits rest).map
            (Char.ofNat (0x10000 + (high - 0xD800) * 0x400 + (low - 0xDC00)) :: ·)
        else none
      | _ => none
    else if isLowSurrogate high then none
    else (joinUnits rest).map (Char.ofNat high :: ·)

def digitValue (c : Char) : Nat :=
  c.toNat - '0'.toNat

/-- Digits with nothing after them; at least one. -/
def digits? (text : List Char) : Option (List Nat) :=
  if text ≠ [] ∧ text.all Char.isDigit then some (text.map digitValue) else none

/-- The exponent, if there is one, takes up all of the text. -/
def exponent? : List Char → Option (Option (Bool × List Nat))
  | [] => some none
  | e :: text =>
    if e = 'e' ∨ e = 'E' then
      match text with
      | '+' :: ds => (digits? ds).map fun ds => some (false, ds)
      | '-' :: ds => (digits? ds).map fun ds => some (true, ds)
      | ds => (digits? ds).map fun ds => some (false, ds)
    else none

/-- A sign, digits without a needless zero in front, perhaps a fraction, perhaps an exponent. -/
def Literal.parse? (text : List Char) : Option Literal :=
  let negative := text.head? == some '-'
  let text := if negative then text.drop 1 else text
  let whole := text.takeWhile Char.isDigit
  let text := text.dropWhile Char.isDigit
  if whole = [] ∨ (whole.head? = some '0' ∧ whole.length ≠ 1) then none
  else match text with
    | '.' :: text =>
      match digits? (text.takeWhile Char.isDigit), exponent? (text.dropWhile Char.isDigit) with
      | some fraction, some exponent =>
        some ⟨negative, whole.map digitValue, some fraction, exponent⟩
      | _, _ => none
    | text => (exponent? text).map fun exponent => ⟨negative, whole.map digitValue, none, exponent⟩

end Interleave.Json
