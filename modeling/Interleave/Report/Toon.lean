import Interleave.Numeral.Double
import Interleave.Report.Basic
import Interleave.Text.CharSet

/-!
# Reports in TOON

TOON is a terse notation: a field to a line, indentation for structure, the length of a list behind
its key, and rows under one head for records of one shape. Keys stand in alphabetical order.

* `Toon.scalar`: a text, quoted if it could be taken for something else.
* `Toon.number`: a whole number, which goes through double precision.
* `GenerateReport.toon`, `ApplyReport.toon`: the reports.
-/

namespace Interleave.Toon

/-- Digits of any script, at least one, at the head of a text; answers what follows them. -/
def dropDigits? : List Char → Option (List Char)
  | c :: rest => if Text.isDecimalDigit c then some (rest.dropWhile Text.isDecimalDigit) else none
  | [] => none

/-- What follows a fraction, if there is one. -/
def dropFraction? : List Char → Option (List Char)
  | '.' :: rest => dropDigits? rest
  | rest => some rest

/-- What follows an exponent, if there is one. -/
def dropExponent? : List Char → Option (List Char)
  | 'e' :: '+' :: rest => dropDigits? rest
  | 'e' :: '-' :: rest => dropDigits? rest
  | 'e' :: rest => dropDigits? rest
  | rest => some rest

/-- Perhaps a minus, digits, perhaps a fraction, perhaps an exponent. -/
def looksLikeNumber (text : List Char) : Bool :=
  let unsigned := if text.head? = some '-' then text.drop 1 else text
  (dropDigits? unsigned >>= dropFraction? >>= dropExponent?) == some []

/-- Characters with a meaning of their own in the notation. -/
def isReserved (c : Char) : Bool :=
  [':', '"', '\\', '[', ']', '\x7b', '\x7d', ',', '\n', '\r', '\t'].contains c

def needsQuotes (text : String) : Bool :=
  text.isEmpty || Text.hasBlankEnd text || ["true", "false", "null"].contains text ||
    looksLikeNumber text.toList || text.toList.any isReserved || text.startsWith "- "

def escapeChar (c : Char) : List Char :=
  match c with
  | '\\' => ['\\', '\\']
  | '"' => ['\\', '"']
  | '\n' => ['\\', 'n']
  | '\r' => ['\\', 'r']
  | '\t' => ['\\', 't']
  | c => [c]

def scalar (text : String) : String :=
  if needsQuotes text then "\"" ++ String.ofList (text.toList.flatMap escapeChar) ++ "\"" else text

def number (n : Nat) : String :=
  if n < 1000000000000000 then toString n else toString (Double.shortest (Double.nearest n))

/-- A list of scalars on one line behind its key. -/
def inlineList (key : String) (items : List String) : String :=
  let head := key ++ "[" ++ toString items.length ++ "]:"
  if items.isEmpty then head else head ++ " " ++ ",".intercalate items

end Toon

open Toon

def GenerateReport.toon (r : GenerateReport) : String :=
  let batch (b : Batch String) : List String :=
    ["  - kind: " ++ scalar b.phase.label,
      "    " ++ inlineList "statements" (b.statements.map scalar)]
  "\n".intercalate
    (["action: " ++ scalar r.action.label, "batches[" ++ toString r.batches.length ++ "]:"] ++
      r.batches.flatMap batch ++
      ["total_statements: " ++ number r.total])

/-- A column for each field of the batches, if there are batches. -/
def ApplyReport.toon (r : ApplyReport) : String :=
  let head := "batches[" ++ toString r.batches.length ++ "]"
  let batches :=
    if r.batches.isEmpty then [head ++ ":"]
    else (head ++ "\x7bkind,statements\x7d:") ::
      r.batches.map fun b => "  " ++ scalar b.phase.label ++ "," ++ number b.statements
  let statements :=
    if r.statements.isEmpty then [] else [inlineList "statements" (r.statements.map scalar)]
  "\n".intercalate
    (["action: " ++ scalar r.action.label, "backend: " ++ scalar r.backend] ++ batches ++
      ["dry_run: " ++ toString r.dryRun] ++ statements ++
      ["total_statements: " ++ number r.total])

end Interleave
