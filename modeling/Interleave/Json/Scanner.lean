import Interleave.Json.Token

/-!
# Finding the tokens of a JSON text

* `Scanner`: what has been read so far, one character after the other.
* `Token.scan`: the tokens of a text. Blanks between tokens are skipped.
-/

namespace Interleave.Json

/-- What the scanner is in the middle of; what it has read of it stands in reverse. -/
inductive Scanner.Mode where
  | between
  | word (seen : List Char)
  | number (seen : List Char)
  | text (seen : List Piece)
  /-- After a backslash. -/
  | escape (seen : List Piece)
  /-- In an escape by number, with so many digits to come. -/
  | hex (seen : List Piece) (missing value : Nat)
deriving DecidableEq

structure Scanner where
  mode : Scanner.Mode := .between
  /-- The finished tokens, last first. -/
  tokens : List Token := []
deriving DecidableEq

namespace Scanner

def isNumberChar (c : Char) : Bool :=
  c.isDigit || c == '+' || c == '-' || c == '.' || c == 'e' || c == 'E'

def isWordChar (c : Char) : Bool :=
  'a' ≤ c && c ≤ 'z'

def word? : List Char → Option Token
  | ['n', 'u', 'l', 'l'] => some .null
  | ['t', 'r', 'u', 'e'] => some (.bool true)
  | ['f', 'a', 'l', 's', 'e'] => some (.bool false)
  | _ => none

/-- The character that a letter after a backslash stands for. -/
def shortEscape? : Char → Option Char
  | '"' => some '"'
  | '\\' => some '\\'
  | '/' => some '/'
  | 'b' => some '\x08'
  | 'f' => some '\x0c'
  | 'n' => some '\n'
  | 'r' => some '\r'
  | 't' => some '\t'
  | _ => none

def hexValue? (c : Char) : Option Nat :=
  if c.isDigit then some (c.toNat - '0'.toNat)
  else if 'a' ≤ c && c ≤ 'f' then some (c.toNat - 'a'.toNat + 10)
  else if 'A' ≤ c && c ≤ 'F' then some (c.toNat - 'A'.toNat + 10)
  else none

def emit (s : Scanner) (t : Token) : Scanner :=
  ⟨.between, t :: s.tokens⟩

/-- Finish a word or number, which ends where a character does not belong to it. -/
def settle (s : Scanner) : Option Scanner :=
  match s.mode with
  | .word seen => (word? seen.reverse).map s.emit
  | .number seen => (Literal.parse? seen.reverse).map fun l => s.emit (.number l)
  | _ => some s

/-- Begin a token, between tokens. -/
def start (s : Scanner) (c : Char) : Option Scanner :=
  match c with
  | ' ' | '\t' | '\n' | '\r' => some s
  | '\x7b' => some (s.emit .openObject)
  | '\x7d' => some (s.emit .closeObject)
  | '[' => some (s.emit .openArray)
  | ']' => some (s.emit .closeArray)
  | ':' => some (s.emit .colon)
  | ',' => some (s.emit .comma)
  | '"' => some { s with mode := .text [] }
  | c =>
    if isWordChar c then some { s with mode := .word [c] }
    else if c.isDigit || c == '-' then some { s with mode := .number [c] }
    else none

/-- Read one character. -/
def step (s : Scanner) (c : Char) : Option Scanner :=
  match s.mode with
  | .between => s.start c
  | .word seen =>
    if isWordChar c then some { s with mode := .word (c :: seen) } else s.settle.bind (·.start c)
  | .number seen =>
    if isNumberChar c then some { s with mode := .number (c :: seen) }
    else s.settle.bind (·.start c)
  | .text seen =>
    if c = '"' then some (s.emit (.string ((joinUnits seen.reverse).map String.ofList)))
    else if c = '\\' then some { s with mode := .escape seen }
    else if c.toNat < 0x20 then none
    else some { s with mode := .text (.char c :: seen) }
  | .escape seen =>
    if c = 'u' then some { s with mode := .hex seen 4 0 }
    else (shortEscape? c).map fun c => { s with mode := .text (.char c :: seen) }
  | .hex seen missing value =>
    (hexValue? c).map fun digit =>
      let value := value * 16 + digit
      { s with
        mode := if missing ≤ 1 then .text (.unit value :: seen)
          else .hex seen (missing - 1) value }

/-- The tokens, if no string is left open. -/
def finish (s : Scanner) : Option (List Token) :=
  s.settle.bind fun s => if s.mode = .between then some s.tokens.reverse else none

end Scanner

def Token.scan (text : String) : Option (List Token) :=
  (text.toList.foldlM Scanner.step {}).bind Scanner.finish

end Interleave.Json
