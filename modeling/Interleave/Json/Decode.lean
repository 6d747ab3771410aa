import Interleave.Json.Literal

/-!
# Decoding JSON values

* `Decoder`: reads a value of some type. It is told how many more containers may be opened, so that
  values kept from a text are nested no deeper than `maxNesting`. Values that are skipped do not
  count.
* `text`, `bool`, `integer`, `list`, `nullable`: decoders of plain values.
* `fields`: the values of named fields, from an object or from an array in the order of the fields.
* `required`, `defaulted`: what a missing field means.
* `tagged`: a value whose kind is named by one of its own members.
-/

namespace Interleave.Json

/-- How many containers may be open at once around a value that is kept. -/
def maxNesting : Nat := 127

/-- `room` is the number of containers that may still be opened. -/
abbrev Decoder (α : Type) := (room : Nat) → Json → Option α

variable {α : Type}

namespace Decode

def text : Decoder String
  | _, .string text => text
  | _, _ => none

def bool : Decoder Bool
  | _, .bool b => some b
  | _, _ => none

/-- An integer that is at least `low` and less than `high`. -/
def integer (low high : Int) : Decoder Int
  | _, .number l => l.integer?.filter fun n => low ≤ n && n < high
  | _, _ => none

def int64 : Decoder Int64 := fun room j =>
  (integer Int64.minValue.toInt (Int64.maxValue.toInt + 1) room j).map Int64.ofInt

def uint64 : Decoder UInt64 := fun room j =>
  (integer 0 UInt64.size room j).map fun n => UInt64.ofNat n.toNat

def uint16 : Decoder UInt16 := fun room j =>
  (integer 0 UInt16.size room j).map fun n => UInt16.ofNat n.toNat

/-- `null` stands for nothing. -/
def nullable (decode : Decoder α) : Decoder (Option α)
  | _, .null => some none
  | room, j => (decode room j).map some

def list (decode : Decoder α) : Decoder (List α)
  | room + 1, .array items => items.mapM (decode room)
  | _, _ => none

/-- What each of the names has for a value. Fields in an array come in the order of the names, and
only the last ones may be left out. In an object they come in any order, each at most once, among
others that are skipped; but every key has to be a text. -/
def fields (names : List String) : Json → Option (List (Option Json))
  | .array items =>
    if items.length ≤ names.length then
      some (items.map some ++ List.replicate (names.length - items.length) none)
    else none
  | .object members =>
    if members.all (·.1.isSome) && names.all fun name => members.countP (·.1 == some name) ≤ 1 then
      some (names.map fun name => members.lookup (some name))
    else none
  | _ => none

/-- A value with named fields, from what the fields hold. -/
def record (names : List String) (build : (room : Nat) → List (Option Json) → Option α) : Decoder α
  | room + 1, j => (fields names j).bind (build room)
  | 0, _ => none

/-- A field that has to be there. -/
def required (decode : Decoder α) (room : Nat) (field : Option Json) : Option α :=
  field.bind (decode room)

/-- A field that may be left out. -/
def defaulted (default : α) (decode : Decoder α) (room : Nat) : Option Json → Option α
  | none => some default
  | some j => decode room j

/-- One of a fixed set of names: the name itself, or an object that has the name as its one key and
`null` as the value. -/
def name (choose : String → Option α) : Decoder α
  | _, .string text => text.bind choose
  | _ + 1, .object [(key, .null)] => key.bind choose
  | _, _ => none

/-- The value can be kept as it is: its strings are texts, its numbers are finite, and it fits the
room. -/
def isKeepable : (room : Nat) → Json → Bool
  | _, .null | _, .bool _ => true
  | _, .number l => !l.overflows
  | _, .string text => text.isSome
  | room + 1, .array items => items.all (isKeepable room)
  | room + 1, .object members => members.all fun (key, j) => key.isSome && isKeepable room j
  | 0, _ => false

/-- The kind of a value and what the value holds besides. The kind is the first item of an array, or
the one member of an object that is called `tag`. The rest is set aside until the kind is known, so
all of it has to be keepable. -/
def tagged (tag : String) : Decoder (String × Json)
  | room + 1, .array (.string kind :: items) =>
    if items.all (isKeepable room) then kind.map (·, .array items) else none
  | room + 1, .object members =>
    if isKeepable (room + 1) (.object members) then
      match members.filter (·.1 == some tag) with
      | [(_, .string kind)] => kind.map (·, .object (members.filter (·.1 != some tag)))
      | _ => none
    else none
  | _, _ => none

/-- A kind that holds nothing: an array has no further items, and the members of an object are
ignored. -/
def isEmptyKind : Json → Bool
  | .array items => items.isEmpty
  | .object _ => true
  | _ => false

end Decode

end Interleave.Json
