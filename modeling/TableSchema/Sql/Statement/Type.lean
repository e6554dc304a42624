import TableSchema.Sql.Dialect
import TableSchema.Sql.Expression.Reader
import TableSchema.Sql.Statement.Basic

/-!
Reading data types. Several spellings have one name. In one of the dialects an unknown name is a
type of its own, in the other it is none.
-/

namespace TableSchema.Sql.TypeSpec

/-- The types that are written with two words, and their canonical names. -/
def pairs : List (List String × String) :=
  [(["CHAR", "VARYING"], "VARCHAR"), (["CHARACTER", "VARYING"], "VARCHAR"),
    (["DOUBLE", "PRECISION"], "DOUBLE")]

/-- The types that are known by another name, and their canonical names. -/
def aliases : List (String × String) :=
  [("CHARACTER", "CHAR"), ("BOOL", "BOOLEAN"), ("INT1", "TINYINT"), ("INT2", "SMALLINT"),
    ("INTEGER", "INT"), ("INT4", "INT"), ("LONG", "BIGINT"), ("REAL", "FLOAT"),
    ("FLOAT4", "FLOAT"), ("FLOAT8", "DOUBLE"), ("DEC", "DECIMAL"), ("FIXED", "DECIMAL"),
    ("NUMERIC", "DECIMAL")]

def canonical : List String :=
  ["CHAR", "VARCHAR", "TINYTEXT", "TEXT", "MEDIUMTEXT", "LONGTEXT", "BINARY", "VARBINARY", "NCHAR",
    "NVARCHAR", "ENUM", "SET", "BIT", "BOOLEAN", "TINYINT", "SMALLINT", "MEDIUMINT", "INT",
    "BIGINT", "SERIAL", "FLOAT", "DOUBLE", "DECIMAL", "DATE", "TIME", "DATETIME", "TIMESTAMP",
    "YEAR", "TINYBLOB", "BLOB", "MEDIUMBLOB", "LONGBLOB", "JSON", "UUID", "GEOMETRY", "VECTOR"]

def unsignable : List String :=
  ["TINYINT", "SMALLINT", "MEDIUMINT", "INT", "BIGINT", "DECIMAL", "DOUBLE"]

def collections : List String := ["ENUM", "SET"]

/-- Words after the name of a column that begin a clause, and so are no types. -/
def clauseWords : List String :=
  ["AS", "CHECK", "COLLATE", "COMMENT", "CONSTRAINT", "DEFAULT", "NOT", "NULL", "ON", "PRIMARY",
    "REFERENCES", "UNIQUE"]

def readPair? : List (List String × String) → Reader (Option String)
  | [] => return none
  | (words, name) :: others => do
    if ← Reader.words? words then return some name
    readPair? others

def readName? : Reader (Option String) := do
  if let some name ← readPair? pairs then return some name
  if ← Reader.ahead ["CHARACTER", "SET"] then return none
  match ← Reader.oneOf? (canonical ++ aliases.map (·.1)) with
  | some word => return some ((aliases.lookup word).getD word)
  | none => return none

/-- A size in the parentheses after a type. A word is taken in capitals, and one may follow. -/
def readSize : Reader (Option TypeParameter) := do
  match ← Expr.readOne with
  | some e =>
    let _ ← Reader.take? Token.isPlain
    match e with
    | .column [i] => return some (.size (.constant (Text.upperString i.text)))
    | e => return some (.size e)
  | none => return none

def readValue : Reader (Option TypeParameter) := return (← Expr.read .equality).map .value

/-- What stands in parentheses after the name of a type. They must not be empty. -/
def readParameters (name : String) : Reader (List TypeParameter) := do
  if ← Reader.symbol? "(" then
    let item := if collections.contains name then readValue else readSize
    let items ← Reader.listed item (← Reader.steps)
    Reader.symbol ")"
    if items.isEmpty then failure
    return items
  return []

/-- A dotted name that is a type of its own. What stands in parentheses after it is dropped. -/
def readOwnName? : Reader (Option String) := do
  match ← Reader.take? fun t => (Expr.ident? t).isSome && !clauseWords.any fun w => t.isWord w with
  | some t =>
    let parts ← Expr.readParts (← Reader.steps)
    if ← Reader.atSymbol "(" then Reader.skipParentheses
    return some (".".intercalate (t.text :: parts.map Ident.text))
  | none => return none

/-- The name that a type is known by: an unsigned type has one of its own, and in one dialect so
has a point in time. -/
def knownName (d : Dialect) (name : String) (unsigned : Bool) : TypeName :=
  if unsigned then .known ("U" ++ name)
  else if d = .mysql ∧ name = "TIMESTAMP" then .known "TIMESTAMPTZ"
  else .known name

def read (d : Dialect) : Reader (Option TypeSpec) := do
  match ← readName? with
  | some name =>
    let parameters ← readParameters name
    let unsigned ← Reader.word? "UNSIGNED"
    if unsigned && !unsignable.contains name then failure
    return some { name := knownName d name unsigned, parameters }
  | none =>
    if d = .postgres then return (← readOwnName?).map fun kind => { name := .own (some kind) }
    return none

end TableSchema.Sql.TypeSpec
