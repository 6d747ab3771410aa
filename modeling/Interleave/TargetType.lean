import Interleave.Schema.Table

/-!
# Column types of the target

* `TargetType`: the types the target knows. Integers and floats have one width; strings and bytes
  have a size.
* `DataType.targetType`: the target's type for a data type and a declared length.
* `TargetType.token`: how the type is written in a statement.
* `Column.declaration`: a column inside `create table`.
-/

namespace Interleave

/-- The size of a string or bytes column. -/
inductive Size where
  | limited (length : UInt64)
  /-- As long as the target allows. -/
  | unlimited
deriving DecidableEq

inductive TargetType where
  | bool
  | int64
  | float64
  | numeric
  | string (size : Size)
  | bytes (size : Size)
  | date
  | timestamp
  | json
  | array (element : TargetType)
deriving DecidableEq

/-- The length of a string or bytes column that declares none. -/
def Size.assumedLength : UInt64 := 255

/-- The longest string column with a stated length. -/
def Size.stringLimit : UInt64 := 2621440

/-- The longest bytes column with a stated length. -/
def Size.bytesLimit : UInt64 := 10485760

/-- A declared length, as far as the target can state it. -/
def Size.within (limit : UInt64) (length : Option UInt64) : Size :=
  let wanted := length.getD Size.assumedLength
  if limit < wanted then .unlimited else .limited wanted

/-- A length belongs to the strings or bytes at the bottom, through any number of arrays. -/
def DataType.targetType (length : Option UInt64) : DataType → TargetType
  | .bool => .bool
  | .int8 | .int16 | .int32 | .int64 => .int64
  | .float32 | .float64 => .float64
  | .numeric => .numeric
  | .string => .string (.within Size.stringLimit length)
  | .text => .string .unlimited
  | .bytes => .bytes (.within Size.bytesLimit length)
  | .blob => .bytes .unlimited
  | .date => .date
  | .timestamp => .timestamp
  | .json => .json
  | .array element => .array (element.targetType length)

def Size.token : Size → String
  | .limited length => toString length.toNat
  | .unlimited => "MAX"

def TargetType.token : TargetType → String
  | .bool => "BOOL"
  | .int64 => "INT64"
  | .float64 => "FLOAT64"
  | .numeric => "NUMERIC"
  | .string size => "STRING(" ++ size.token ++ ")"
  | .bytes size => "BYTES(" ++ size.token ++ ")"
  | .date => "DATE"
  | .timestamp => "TIMESTAMP"
  | .json => "JSON"
  | .array element => "ARRAY<" ++ element.token ++ ">"

namespace Column

def targetType (c : Column) : TargetType :=
  c.type.targetType c.length

/-- A key column is `not null` whatever its declaration says. -/
def declaration (c : Column) (isKeyColumn : Bool) : String :=
  c.name ++ " " ++ c.targetType.token ++ (if isKeyColumn || !c.nullable then " not null" else "")

end Column

end Interleave
