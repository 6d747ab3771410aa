import Interleave.Text.Visible

/-!
# Diagnostics

An error is reported as its kind and the facts it carries, each under a name. Texts stand in double
quotes, written so that every character can be told apart.

* `Text.quotedChar`: one character, escaped if it is a quote, a backslash, invisible or a combining
  mark.
* `Text.quoted`, `Text.quotedList`: a whole text between double quotes, and texts between square
  brackets.
* `Diagnostic`: a kind with named facts.
* `Diagnostic.text`: the report, every text in it quoted.
-/

namespace Interleave

namespace Text

/-- The number of a character in lower-case hexadecimal, in braces after `\u`. -/
def escapedByNumber (c : Char) : String :=
  "\\u\x7b" ++ String.ofList (Nat.toDigits 16 c.toNat) ++ "\x7d"

def quotedChar (c : Char) : String :=
  match c with
  | '"' => "\\\""
  | '\\' => "\\\\"
  | '\n' => "\\n"
  | '\r' => "\\r"
  | '\t' => "\\t"
  | '\x00' => "\\0"
  | _ =>
    if combining.contains c || invisible.contains c then escapedByNumber c
    else String.singleton c

def quoted (text : String) : String :=
  "\"" ++ String.join (text.toList.map quotedChar) ++ "\""

def quotedList (texts : List String) : String :=
  "[" ++ ", ".intercalate (texts.map quoted) ++ "]"

end Text

inductive Fact where
  | text (value : String)
  | texts (values : List String)
deriving DecidableEq

def Fact.written : Fact → String
  | .text value => Text.quoted value
  | .texts values => Text.quotedList values

structure Diagnostic where
  kind : String
  facts : List (String × Fact)
deriving DecidableEq

/-- A kind and its facts in braces. -/
def Diagnostic.text (d : Diagnostic) : String :=
  d.kind ++ " \x7b " ++
    ", ".intercalate (d.facts.map fun (name, fact) => name ++ ": " ++ fact.written) ++ " \x7d"

end Interleave
