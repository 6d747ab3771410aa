import Interleave.Json.Value

/-!
# Writing JSON

* `writeText`: a string with its quotes and escapes.
* `Json.pretty`: a value over several lines, two blanks to a level.
-/

namespace Interleave.Json

def hexDigit (n : Nat) : Char :=
  if n < 10 then Char.ofNat ('0'.toNat + n) else Char.ofNat ('a'.toNat + (n - 10))

/-- Quotes, backslashes and controls are escaped, and nothing else. -/
def writeChar (c : Char) : List Char :=
  match c with
  | '"' => ['\\', '"']
  | '\\' => ['\\', '\\']
  | '\x08' => ['\\', 'b']
  | '\x0c' => ['\\', 'f']
  | '\n' => ['\\', 'n']
  | '\r' => ['\\', 'r']
  | '\t' => ['\\', 't']
  | c =>
    if c.toNat < 0x20 then ['\\', 'u', '0', '0', hexDigit (c.toNat / 16), hexDigit (c.toNat % 16)]
    else [c]

def writeText (text : String) : String :=
  "\"" ++ String.ofList (text.toList.flatMap writeChar) ++ "\""

def writeDigits (ds : List Nat) : String :=
  String.ofList (ds.map hexDigit)

def Literal.write (l : Literal) : String :=
  (if l.negative then "-" else "") ++ writeDigits l.whole ++
    (match l.fraction with
      | some ds => "." ++ writeDigits ds
      | none => "") ++
    (match l.exponent with
      | some (negative, ds) => "e" ++ (if negative then "-" else "") ++ writeDigits ds
      | none => "")

/-- A line break and the indentation of a level. -/
def newLine (level : Nat) : String :=
  "\n" ++ String.ofList (List.replicate (2 * level) ' ')

/-- Items between brackets, each on a line of its own. Without items the brackets close at once. -/
def block (level : Nat) (opening : String) (items : List String) (closing : String) : String :=
  if items.isEmpty then opening ++ closing
  else opening ++ newLine (level + 1) ++ ("," ++ newLine (level + 1)).intercalate items ++
    newLine level ++ closing

mutual

/-- A string without a text, which no program writes, comes out empty. -/
def prettyAt (level : Nat) : Json → String
  | .null => "null"
  | .bool b => if b then "true" else "false"
  | .number l => l.write
  | .string text => writeText (text.getD "")
  | .array items => block level "[" (prettyItems (level + 1) items) "]"
  | .object members => block level "\x7b" (prettyMembers (level + 1) members) "\x7d"

def prettyItems (level : Nat) : List Json → List String
  | [] => []
  | j :: rest => prettyAt level j :: prettyItems level rest

def prettyMembers (level : Nat) : List (Option String × Json) → List String
  | [] => []
  | (key, j) :: rest =>
    (writeText (key.getD "") ++ ": " ++ prettyAt level j) :: prettyMembers level rest

end

def pretty (j : Json) : String :=
  prettyAt 0 j

end Interleave.Json
