import Interleave.Json.Scanner

/-!
# Reading JSON

Tokens are read from left to right. The containers that are open at any moment form a stack, so
nesting is limited by nothing but the text.

* `Reader`: the open containers and what may come next.
* `Json.parse?`: the value of a text that holds one value and nothing else but blanks.
-/

namespace Interleave.Json

/-- An open container with what it holds so far, in reverse. -/
inductive Frame where
  | array (items : List Json)
  | object (members : List (Option String × Json))
  /-- An object that waits for the value of a key. -/
  | member (members : List (Option String × Json)) (key : Option String)

/-- What the next token has to be. -/
inductive Expected where
  | value
  /-- A value, or the end of an array that has just been opened. -/
  | valueOrEnd
  | key
  /-- A key, or the end of an object that has just been opened. -/
  | keyOrEnd
  | colon
  /-- A comma or an end; this value has just been completed. -/
  | more (done : Json)

structure Reader where
  stack : List Frame := []
  expected : Expected := .value

namespace Reader

/-- The value of a token that is a value by itself. -/
def scalar? : Token → Option Json
  | .null => some .null
  | .bool b => some (.bool b)
  | .number l => some (.number l)
  | .string t => some (.string t)
  | _ => none

/-- Begin a value: a container is opened, a scalar is complete. -/
def begin (stack : List Frame) (t : Token) : Option Reader :=
  match t with
  | .openArray => some ⟨.array [] :: stack, .valueOrEnd⟩
  | .openObject => some ⟨.object [] :: stack, .keyOrEnd⟩
  | t => (scalar? t).map fun j => ⟨stack, .more j⟩

/-- Read a key of the object on top of the stack. -/
def beginMember (stack : List Frame) (t : Token) : Option Reader :=
  match stack, t with
  | .object members :: stack, .string key => some ⟨.member members key :: stack, .colon⟩
  | _, _ => none

def step (r : Reader) (t : Token) : Option Reader :=
  match r.expected, t, r.stack with
  | .valueOrEnd, .closeArray, .array [] :: stack => some ⟨stack, .more (.array [])⟩
  | .keyOrEnd, .closeObject, .object [] :: stack => some ⟨stack, .more (.object [])⟩
  | .value, t, stack | .valueOrEnd, t, stack => begin stack t
  | .key, t, stack | .keyOrEnd, t, stack => beginMember stack t
  | .colon, .colon, stack => some ⟨stack, .value⟩
  | .more j, .comma, .array items :: stack => some ⟨.array (j :: items) :: stack, .value⟩
  | .more j, .comma, .member members key :: stack =>
    some ⟨.object ((key, j) :: members) :: stack, .key⟩
  | .more j, .closeArray, .array items :: stack => some ⟨stack, .more (.array (j :: items).reverse)⟩
  | .more j, .closeObject, .member members key :: stack =>
    some ⟨stack, .more (.object ((key, j) :: members).reverse)⟩
  | _, _, _ => none

/-- The value, if it is complete. -/
def finish (r : Reader) : Option Json :=
  match r.expected, r.stack with
  | .more j, [] => some j
  | _, _ => none

end Reader

def ofTokens? (tokens : List Token) : Option Json :=
  (tokens.foldlM Reader.step {}).bind Reader.finish

def parse? (text : String) : Option Json :=
  (Token.scan text).bind ofTokens?

end Interleave.Json
