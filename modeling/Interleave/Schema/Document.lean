import Interleave.Json.Decode
import Interleave.Json.Reader
import Interleave.Schema

/-!
# Schema documents

Schemas are written in JSON.

* `Schema.decode`: the schema that a JSON value describes; the decoders before it read its parts.
* `Schema.parse?`: the schema that a text describes.
-/

namespace Interleave

open Json (Decoder)
open Json.Decode

def DataType.ofName? : String → Option DataType
  | "bool" => some .bool
  | "int8" => some .int8
  | "int16" => some .int16
  | "int32" => some .int32
  | "int64" => some .int64
  | "float32" => some .float32
  | "float64" => some .float64
  | "numeric" => some .numeric
  | "string" => some .string
  | "text" => some .text
  | "bytes" => some .bytes
  | "blob" => some .blob
  | "date" => some .date
  | "timestamp" => some .timestamp
  | "json" => some .json
  | _ => none

/-- The name of a plain type, or an object with the one key `array` and the type of the elements. -/
def DataType.decode : Decoder DataType
  | room + 1, .object [(some "array", element)] => (decode room element).map .array
  | room, j => name DataType.ofName? room j

def Column.decode : Decoder Column :=
  record ["name", "type", "nullable", "length"] fun room => fun
    | [name, type, nullable, length] => do
      return {
        name := ← required text room name
        type := ← required DataType.decode room type
        nullable := ← defaulted true bool room nullable
        length := ← defaulted none (Json.Decode.nullable uint64) room length }
    | _ => none

def Table.decode : Decoder Table :=
  record ["name", "columns", "primary_key", "parent", "on_delete_cascade"] fun room => fun
    | [name, columns, primaryKey, parent, cascade] => do
      return {
        name := ← required text room name
        columns := ← required (list Column.decode) room columns
        primaryKey := ← defaulted [] (list text) room primaryKey
        parent := ← defaulted none (nullable text) room parent
        cascade := ← defaulted false bool room cascade }
    | _ => none

def Constraint.Kind.decode : Decoder Constraint.Kind := fun room j => do
  let (kind, held) ← tagged "type" room j
  match kind with
  | "unique" => if isEmptyKind held then return .unique else none
  | "index" => if isEmptyKind held then return .index else none
  | "foreign_key" => match ← fields ["references", "referenced_columns"] held with
    | [references, referencedColumns] =>
      return .foreignKey (← required text (room - 1) references)
        (← defaulted [] (list text) (room - 1) referencedColumns)
    | _ => none
  | "check" => match ← fields ["expression", "tables"] held with
    | [expression, tables] =>
      return .check (← required text (room - 1) expression)
        (← defaulted [] (list text) (room - 1) tables)
    | _ => none
  | _ => none

def Constraint.decode : Decoder Constraint :=
  record ["kind", "table", "columns", "name"] fun room => fun
    | [kind, table, columns, name] => do
      return {
        kind := ← required Kind.decode room kind
        table := ← required text room table
        columns := ← defaulted [] (list text) room columns
        name := ← defaulted none (nullable text) room name }
    | _ => none

def Strategy.ofName? : String → Option Strategy
  | "sequential" => some .sequential
  | "bit_reversed" => some .bitReversed
  | _ => none

def Sequence.decode : Decoder Sequence :=
  record ["name", "table", "initial_value", "strategy"] fun room => fun
    | [name, table, initialValue, strategy] => do
      return {
        name := ← required text room name
        table := ← defaulted none (nullable text) room table
        initialValue := ← defaulted 1 int64 room initialValue
        strategy := ← defaulted .sequential (Json.Decode.name Strategy.ofName?) room strategy }
    | _ => none

def Schema.decode : Decoder Schema :=
  record ["tables", "constraints", "sequences"] fun room => fun
    | [tables, constraints, sequences] => do
      return {
        tables := ← required (list Table.decode) room tables
        constraints := ← defaulted [] (list Constraint.decode) room constraints
        sequences := ← defaulted [] (list Sequence.decode) room sequences }
    | _ => none

def Schema.parse? (text : String) : Option Schema :=
  (Json.parse? text).bind (Schema.decode Json.maxNesting)

end Interleave
