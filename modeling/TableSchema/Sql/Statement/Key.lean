import TableSchema.Sql.Expression.Reader
import TableSchema.Sql.Statement.Basic

/-!
Reading the names of tables, the columns of keys, and what may stand after a key.
-/

namespace TableSchema.Sql

def isTablePart (t : Token) : Bool :=
  match t with
  | .name _ | .string _ => true
  | .word _ => !Expr.isReserved t
  | _ => false

def tablePart : Reader String := do
  match ← Reader.take? isTablePart with
  | some t => return t.text
  | none => failure

def tableParts : Nat → Reader (List String)
  | 0 => failure
  | fuel + 1 => do
    if ← Reader.symbol? "." then return (← tablePart) :: (← tableParts fuel)
    return []

def given (part : String) : Option String := if part = "" then none else some part

/-- The name of a table from its parts. Of more than three, the first two and the last count. -/
def tableIdOf (first : String) : List String → TableId
  | [] => { table := first }
  | [table] => { table, schema := given first }
  | schema :: rest => { table := rest.getLastD "", schema := given schema, catalog := given first }

def readTableId : Reader TableId := do
  return tableIdOf (← tablePart) (← tableParts (← Reader.steps))

/-- A part of a key. A column may be cut to a length, which is dropped. -/
def keyPart : Reader (Option KeyPart) := do
  if (← Reader.take? fun t => t = .symbol "@" || t = .symbol ":").isSome then
    match ← Reader.take? Token.isPlain with
    | some _ => return some .other
    | none => failure
  if ← Reader.symbol? "?" then return some .other
  match ← Reader.take? Token.isPlain with
  | some t =>
    if ← Reader.symbol? "(" then
      match ← Reader.take? Token.isNumber with
      | some _ => Reader.symbol ")"
      | none => failure
    return some (.column t.text)
  | none => return none

def keyParts : Reader (List KeyPart) := do
  Reader.symbol "("
  let parts ← Reader.listed keyPart (← Reader.steps)
  Reader.symbol ")"
  if parts.isEmpty then failure
  return parts

def keyActions : List (List String) :=
  [["NO", "ACTION"], ["SET", "NULL"], ["SET", "DEFAULT"], ["CASCADE"], ["RESTRICT"]]

def keyMarks : List (List String) :=
  [["NOT", "ENFORCED"], ["MATCH", "FULL"], ["INITIALLY", "DEFERRED"], ["DEFERRABLE"]]

def keyOption : Reader (Option Unit) := do
  if ← Reader.word? "ON" then
    match ← Reader.take? Token.isPlain with
    | none => failure
    | some _ =>
      if ← Reader.anyWords? keyActions then return some ()
      failure
  if ← Reader.word? "USING" then
    match ← Reader.take? Token.isPlain with
    | none => failure
    | some _ => return some ()
  if ← Reader.anyWords? keyMarks then return some ()
  return none

def keyOptions : Reader Unit := do
  let _ ← Reader.repeated keyOption (← Reader.steps)

/-- What a foreign key refers to. -/
def reference : Reader Unit := do
  let _ ← readTableId
  if ← Reader.atSymbol "(" then Reader.skipParentheses
  keyOptions

end TableSchema.Sql
