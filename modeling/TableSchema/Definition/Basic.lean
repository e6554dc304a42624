/-!
Column definitions as they are written: a data type of one of seven shapes, and a list of
constraints. Numbers keep the text they were written with.
-/

namespace TableSchema

/-- One length, as in `CHAR(10)`. -/
structure OneDimension where
  literal : String
  deriving DecidableEq, Repr

/-- A length and a scale, as in `DOUBLE(8,3)`. -/
structure TwoDimensions where
  first : String
  second : String
  deriving DecidableEq, Repr

/-- A length and perhaps a scale, as in `DECIMAL(5)` and `DECIMAL(5,2)`. -/
structure OneOrTwoDimensions where
  first : String
  second : Option String := none
  deriving DecidableEq, Repr

structure ValueList where
  values : List String := []
  deriving DecidableEq, Repr

inductive ColumnType where
  /-- Character and binary strings. -/
  | string (name : String) (length : Option OneDimension) (charset collation : Option String)
  /-- `LONG VARCHAR`, which has no length. -/
  | longVarchar (name : String) (charset collation : Option String)
  /-- Fixed-length strings in the national character set. -/
  | nationalString (name : String) (length : Option OneDimension)
  /-- Variable-length strings in the national character set. -/
  | nationalVarying (name : String) (length : Option OneDimension)
  /-- Numbers and times. -/
  | dimensioned (name : String) (one : Option OneDimension) (two : Option TwoDimensions)
      (oneOrTwo : Option OneOrTwoDimensions) (unsigned zerofill : Bool)
  /-- `ENUM` and `SET`. -/
  | collection (name : String) (values : ValueList) (charset : Option String)
  /-- All other types. -/
  | simple (name : String) (unsigned zerofill : Bool)
  deriving DecidableEq, Repr

def ColumnType.name : ColumnType → String
  | .string name _ _ _ | .longVarchar name _ _ | .nationalString name _ | .nationalVarying name _
  | .dimensioned name _ _ _ _ _ | .collection name _ _ | .simple name _ _ => name

/-- The words `NULL` and `NOT NULL`. -/
structure NullMark where
  notNull : Bool := false
  deriving DecidableEq, Repr

/-- The text of a default, quotes included. -/
structure DefaultText where
  text : String
  deriving DecidableEq, Repr

inductive Constraint where
  | null (mark : NullMark)
  | default (value : DefaultText)
  | autoIncrement
  | primaryKey
  | uniqueKey
  | comment (literal : Option String)
  | serialDefault
  deriving DecidableEq, Repr

/-- A data type and its constraints, in the order they are written. -/
structure ColumnDefinition where
  type : ColumnType
  constraints : List Constraint := []
  deriving DecidableEq, Repr

end TableSchema
