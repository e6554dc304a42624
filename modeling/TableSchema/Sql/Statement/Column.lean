import TableSchema.Sql.Statement.Key
import TableSchema.Sql.Statement.Type

/-!
Reading columns: a name, perhaps a type, and clauses in any order.
-/

namespace TableSchema.Sql

/-- An expression that must be there. -/
def require (e : Reader (Option Expr)) : Reader Expr := do
  match ← e with
  | some e => return e
  | none => failure

def inParentheses : Reader Expr := do
  Reader.symbol "("
  let e ← require (Expr.read .disjunction)
  Reader.symbol ")"
  return e

/-- How a computed column is kept. -/
def storage : Reader Unit := do
  let _ ← Reader.oneOf? ["STORED", "VIRTUAL", "PERSISTENT"]

def clauseOf : String → Reader Clause
  | "NULL" => return .null false
  | "NOT" => do
    if ← Reader.word? "NULL" then return .null true
    failure
  | "UNIQUE" => do
    let _ ← Reader.oneOf? ["KEY", "INDEX"]
    return .unique
  | "PRIMARY" => do
    if !(← Reader.word? "KEY") then failure
    let _ ← Reader.oneOf? ["ASC", "DESC"]
    if ← Reader.atSymbol "(" then
      let parts ← keyParts
      keyOptions
      return .tableKey parts
    keyOptions
    return .primaryKey
  | "AUTO_INCREMENT" => return .autoIncrement
  | "COMMENT" => do
    match ← Reader.take? fun _ => true with
    | some (.string text) => return .comment (.string text)
    | some (.national text) => return .comment (.national text)
    | _ => failure
  | "DEFAULT" => return .default (← require (Expr.read .bits))
  | "CHARACTER" => do
    if !(← Reader.word? "SET") then failure
    match ← Reader.take? Token.isPlain with
    | some t => return .charset t.text
    | none => failure
  | "COLLATE" => do
    match ← Reader.take? isTablePart with
    | some t =>
      let parts ← Expr.readParts (← Reader.steps)
      return .collation ((parts.map Ident.text).getLastD t.text)
    | none => failure
  | "CHECK" => do
    let e ← inParentheses
    let _ ← Reader.word? "ENFORCED"
    return .check e
  | "REFERENCES" => do
    reference
    return .other
  | "GENERATED" => do
    let _ ← Reader.word? "ALWAYS"
    if !(← Reader.word? "AS") then failure
    let _ ← inParentheses
    storage
    return .other
  | "ON" => do
    if !(← Reader.word? "UPDATE") then failure
    match ← Expr.readOne with
    | some (.call ..) | some (.constant _) => return .other
    | _ => failure
  | _ => failure

def clauseStarts : List String :=
  ["NULL", "NOT", "UNIQUE", "PRIMARY", "AUTO_INCREMENT", "COMMENT", "DEFAULT", "CHARACTER",
    "COLLATE", "CHECK", "REFERENCES", "GENERATED", "ON"]

/-- A clause, with a name in front of it perhaps; a name may also stand alone. -/
def clause : Reader (Option Clause) := do
  let isNamed ← Reader.word? "CONSTRAINT"
  let name ← if isNamed then Reader.take? Token.isPlain else pure none
  match ← Reader.oneOf? clauseStarts with
  | some word => return some (← clauseOf word)
  | none => return name.map fun _ => .other

/-- What a column is computed from. After a type it stands in parentheses. -/
def computed (typed : Bool) : Reader (Option Clause) := do
  if ← Reader.word? "AS" then
    let _ ← if typed then inParentheses else require (Expr.read .disjunction)
    storage
    return some .other
  return none

def columnAfter (d : Dialect) (name : String) : Reader ColumnSpec := do
  let type ← TypeSpec.read d
  let first ← computed type.isSome
  let others ← Reader.repeated clause (← Reader.steps)
  return { name, type, clauses := first.toList ++ others }

/-- A column, if one stands here. A name with nothing after it is no column. -/
def readColumn (d : Dialect) : Reader (Option ColumnSpec) := do
  match ← Reader.take? Token.isPlain with
  | some t =>
    let c ← columnAfter d t.text
    return if c.type.isNone && c.clauses.isEmpty then none else some c
  | none => return none

end TableSchema.Sql
