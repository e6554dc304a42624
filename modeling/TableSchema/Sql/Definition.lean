import TableSchema.Definition.Basic
import TableSchema.Source.Marker
import TableSchema.Sql.Statement.Basic

/-!
From a column of a statement to its definition. The name of the type decides the shape of the data
type; the modifiers among the clauses are gathered into it, wherever they stand, and the other
clauses become constraints in their order.
-/

namespace TableSchema.Sql

namespace Clause

/-- The name of the column that a check is all about, in parentheses or not. -/
def checkedName? : Expr → Option String
  | .column parts | .paren (.column parts) => parts.getLast?.map Ident.text
  | _ => none

def marker? : Clause → Option Source.Marker
  | .check e => (checkedName? e).bind Source.Marker.ofName?
  | _ => none

def charset? : Clause → Option String
  | .charset name => some name
  | _ => none

def collation? : Clause → Option String
  | .collation name => some name
  | _ => none

/-- The constraint that a clause makes. Texts keep their written form. -/
def constraint? (r : Renderer) (c : Clause) : Option Constraint :=
  match c with
  | .null notNull => some (.null ⟨notNull⟩)
  | .primaryKey => some .primaryKey
  | .unique => some .uniqueKey
  | .autoIncrement => some .autoIncrement
  | .comment e => some (.comment (some (r.render e)))
  | .default e => some (.default ⟨r.render e⟩)
  | .check _ => if c.marker? = some .serialDefault then some .serialDefault else none
  | .tableKey _ | .charset _ | .collation _ | .other => none

end Clause

/-- What the clauses of a column say of its type. Of several character sets the last one counts, and
so of collations. -/
structure Modifiers where
  charset : Option String
  collation : Option String
  zerofill : Bool
  longVarchar : Bool
  deriving DecidableEq, Repr

def Modifiers.ofClauses (clauses : List Clause) : Modifiers where
  charset := (clauses.filterMap Clause.charset?).getLast?
  collation := (clauses.filterMap Clause.collation?).getLast?
  zerofill := clauses.any fun c => c.marker? = some .zerofill
  longVarchar := clauses.any fun c => c.marker? = some .longVarchar

namespace TypeName

/-- The name as it is known, or a type's own one in capitals, which may be missing. -/
def text : TypeName → String
  | known name => name
  | own kind => Text.upperString ((kind.filter (· ≠ "")).getD "USERDEFINED")

/-- Names that are folded: what each stands for, and whether that is unsigned. -/
def foldings : List (String × String × Bool) :=
  [("UTINYINT", "TINYINT", true), ("USMALLINT", "SMALLINT", true),
    ("UMEDIUMINT", "MEDIUMINT", true), ("UINT", "INT", true), ("UBIGINT", "BIGINT", true),
    ("UDECIMAL", "DECIMAL", true), ("UDOUBLE", "DOUBLE", true),
    ("TIMESTAMPTZ", "TIMESTAMP", false), ("TIMESTAMPLTZ", "TIMESTAMP", false)]

/-- The name that a type goes by in a definition, and whether the type is unsigned. -/
def folded (t : TypeName) : String × Bool := (foldings.lookup t.text).getD (t.text, false)

end TypeName

namespace TypeParameter

def expression : TypeParameter → Expr
  | size e | value e => e

def text (r : Renderer) (p : TypeParameter) : String := r.plain p.expression

end TypeParameter

namespace TypeSpec

def strings : List String :=
  ["CHAR", "VARCHAR", "TINYTEXT", "TEXT", "MEDIUMTEXT", "LONGTEXT", "BINARY", "VARBINARY"]

def longStrings : List String := ["LONG", "LONG VARCHAR"]

/-- The types that take a length and perhaps a scale. -/
def scaled : List String := ["DECIMAL", "DEC", "FIXED", "NUMERIC", "FLOAT"]

/-- The types that take a length, or a length and a scale. -/
def dimensioned : List String :=
  ["BIT", "TINYINT", "SMALLINT", "MEDIUMINT", "INT", "INTEGER", "BIGINT", "REAL", "DOUBLE", "TIME",
    "DATETIME", "TIMESTAMP", "YEAR"]

def toColumnType (r : Renderer) (t : TypeSpec) (m : Modifiers) : ColumnType :=
  let (name, unsigned) := t.name.folded
  let parameters := t.parameters.map (TypeParameter.text r)
  let length := parameters.head?.map OneDimension.mk
  if m.longVarchar then .longVarchar "LONG VARCHAR" m.charset m.collation
  else if strings.contains name then .string name length m.charset m.collation
  else if longStrings.contains name then .longVarchar name m.charset m.collation
  else if name = "NCHAR" then .nationalString name length
  else if name = "NVARCHAR" then .nationalVarying name length
  else if name = "ENUM" ∨ name = "SET" then .collection name ⟨parameters⟩ m.charset
  else if scaled.contains name then
    let dimensions := parameters.head?.map fun first =>
      { first, second := parameters[1]? : OneOrTwoDimensions }
    .dimensioned name none none dimensions unsigned m.zerofill
  else if dimensioned.contains name then
    match parameters with
    | first :: second :: _ =>
      .dimensioned name none (some ⟨first, second⟩) none unsigned m.zerofill
    | _ => .dimensioned name length none none unsigned m.zerofill
  else .simple name unsigned m.zerofill

end TypeSpec

def ColumnSpec.definition? (r : Renderer) (c : ColumnSpec) : Option ColumnDefinition :=
  c.type.map fun t =>
    ⟨t.toColumnType r (.ofClauses c.clauses), c.clauses.filterMap (Clause.constraint? r)⟩

end TableSchema.Sql
