import TableSchema.Definition.Basic
import TableSchema.Text.Blank
import TableSchema.Text.Casing

/-!
Resolved data types: a canonical name, a standard type code, and the length and scale a column has
when its definition gives none. Every written type resolves; one whose name is not registered has
the code for other types.
-/

namespace TableSchema

/-! ### Standard codes of column types -/

namespace TypeCode

def bit : Int := -7
def smallInt : Int := 5
def integer : Int := 4
def bigInt : Int := -5
def float : Int := 6
def real : Int := 7
def double : Int := 8
def numeric : Int := 2
def decimal : Int := 3
def char : Int := 1
def varchar : Int := 12
def date : Int := 91
def time : Int := 92
def timestamp : Int := 93
def timestampWithZone : Int := 2014
def binary : Int := -2
def varbinary : Int := -3
def blob : Int := 2004
def boolean : Int := 16
def nchar : Int := -15
def nvarchar : Int := -9
def other : Int := 1111

end TypeCode

/-- A data type and what it gives to a column that leaves length or scale open. -/
structure DataType where
  name : String
  code : Int
  length : Option Int := none
  scale : Option Int := none
  deriving DecidableEq, Repr

namespace DataType

def registered : List DataType := [
  -- character strings
  ⟨"CHAR", TypeCode.char, some 1, none⟩,
  ⟨"CHARACTER", TypeCode.char, some 1, none⟩,
  ⟨"VARCHAR", TypeCode.varchar, none, none⟩,
  ⟨"CHARACTER VARYING", TypeCode.varchar, none, none⟩,
  ⟨"TINYTEXT", TypeCode.varchar, none, none⟩,
  ⟨"TEXT", TypeCode.varchar, none, none⟩,
  ⟨"MEDIUMTEXT", TypeCode.varchar, none, none⟩,
  ⟨"LONGTEXT", TypeCode.varchar, none, none⟩,
  ⟨"LONG", TypeCode.varchar, none, none⟩,
  ⟨"LONG VARCHAR", TypeCode.varchar, none, none⟩,
  ⟨"BINARY", TypeCode.binary, some 1, none⟩,
  ⟨"VARBINARY", TypeCode.varbinary, none, none⟩,
  ⟨"NCHAR", TypeCode.nchar, none, none⟩,
  ⟨"NATIONAL CHAR", TypeCode.nchar, none, none⟩,
  ⟨"NATIONAL CHARACTER", TypeCode.nchar, none, none⟩,
  ⟨"NVARCHAR", TypeCode.nvarchar, none, none⟩,
  ⟨"NATIONAL VARCHAR", TypeCode.nvarchar, none, none⟩,
  ⟨"NCHAR VARCHAR", TypeCode.nvarchar, none, none⟩,
  ⟨"NATIONAL CHAR VARYING", TypeCode.nvarchar, none, none⟩,
  ⟨"NATIONAL CHARACTER VARYING", TypeCode.nvarchar, none, none⟩,
  ⟨"ENUM", TypeCode.char, none, none⟩,
  ⟨"SET", TypeCode.char, none, none⟩,
  -- numbers
  ⟨"BIT", TypeCode.bit, some 1, none⟩,
  ⟨"BOOL", TypeCode.boolean, none, none⟩,
  ⟨"BOOLEAN", TypeCode.boolean, none, none⟩,
  ⟨"TINYINT", TypeCode.smallInt, none, none⟩,
  ⟨"SMALLINT", TypeCode.smallInt, none, none⟩,
  ⟨"MEDIUMINT", TypeCode.integer, none, none⟩,
  ⟨"INT", TypeCode.integer, none, none⟩,
  ⟨"INTEGER", TypeCode.integer, none, none⟩,
  ⟨"BIGINT", TypeCode.bigInt, none, none⟩,
  ⟨"SERIAL", TypeCode.bigInt, none, none⟩,
  ⟨"REAL", TypeCode.real, none, none⟩,
  ⟨"FLOAT", TypeCode.float, none, none⟩,
  ⟨"DOUBLE", TypeCode.double, none, none⟩,
  ⟨"DOUBLE PRECISION", TypeCode.double, none, none⟩,
  ⟨"DECIMAL", TypeCode.decimal, some 10, some 0⟩,
  ⟨"DEC", TypeCode.decimal, some 10, some 0⟩,
  ⟨"FIXED", TypeCode.decimal, some 10, some 0⟩,
  ⟨"NUMERIC", TypeCode.numeric, some 10, some 0⟩,
  -- dates and times
  ⟨"DATE", TypeCode.date, none, none⟩,
  ⟨"TIME", TypeCode.time, none, none⟩,
  ⟨"DATETIME", TypeCode.timestamp, none, none⟩,
  ⟨"TIMESTAMP", TypeCode.timestampWithZone, none, none⟩,
  ⟨"YEAR", TypeCode.integer, none, none⟩,
  -- large objects
  ⟨"TINYBLOB", TypeCode.blob, none, none⟩,
  ⟨"BLOB", TypeCode.blob, none, none⟩,
  ⟨"MEDIUMBLOB", TypeCode.blob, none, none⟩,
  ⟨"LONGBLOB", TypeCode.blob, none, none⟩,
  ⟨"LONG VARBINARY", TypeCode.blob, none, none⟩,
  -- documents, addresses and shapes
  ⟨"JSON", TypeCode.other, none, none⟩,
  ⟨"UUID", TypeCode.other, none, none⟩,
  ⟨"INET4", TypeCode.varchar, none, none⟩,
  ⟨"INET6", TypeCode.varchar, none, none⟩,
  ⟨"GEOMETRY", TypeCode.other, none, none⟩,
  ⟨"POINT", TypeCode.other, none, none⟩,
  ⟨"LINESTRING", TypeCode.other, none, none⟩,
  ⟨"POLYGON", TypeCode.other, none, none⟩,
  ⟨"MULTIPOINT", TypeCode.other, none, none⟩,
  ⟨"MULTILINESTRING", TypeCode.other, none, none⟩,
  ⟨"MULTIPOLYGON", TypeCode.other, none, none⟩,
  ⟨"GEOMETRYCOLLECTION", TypeCode.other, none, none⟩]

/-- The type registered under a canonical name, or the one for other types. -/
def ofName (name : String) : DataType :=
  (registered.find? (·.name == name)).getD ⟨name, TypeCode.other, none, none⟩

/-- The canonical spelling of a type name: upper case, one space between the words. -/
def canonicalName (name : String) : String :=
  String.ofList (Text.squeeze (Text.upper name.toList))

end DataType

/-- The words that a number type adds to its name. -/
def modifierSuffix (unsigned zerofill : Bool) : String :=
  (if unsigned then " UNSIGNED" else "") ++ (if zerofill then " ZEROFILL" else "")

def ColumnType.suffix : ColumnType → String
  | .dimensioned _ _ _ _ unsigned zerofill | .simple _ unsigned zerofill =>
    modifierSuffix unsigned zerofill
  | _ => ""

def ColumnType.resolve (t : ColumnType) : DataType :=
  let base := DataType.ofName (DataType.canonicalName t.name)
  { base with name := base.name ++ t.suffix }

end TableSchema
