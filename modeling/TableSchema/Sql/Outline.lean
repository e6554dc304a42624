import TableSchema.Outline
import TableSchema.Source.Rewrite
import TableSchema.Sql.Definition
import TableSchema.Sql.Statement.Reader
import TableSchema.Sql.Token.Lexer

/-!
From the text of a statement to the outline of a table. Only statements that create a table, or add
columns to one, have an outline. A column or a key that cannot be used ends it, and what stands
before is kept.
-/

namespace TableSchema.Sql

/-- Why a statement has no outline, or one that ends early. -/
inductive OutlineError where
  | dialect (e : DialectError)
  | tokens (e : LexError)
  /-- The text is no statement. -/
  | malformed
  /-- The statement is of a kind that tells of no columns. -/
  | unsupported (kind : String)
  | noType (column : String)
  | keyPart

def OutlineError.message : OutlineError → String
  | dialect e => e.message
  | tokens e => "Error tokenizing the statement: " ++ e.message
  | malformed => "Could not parse ddl: no statement can be read here"
  | unsupported kind =>
    "Only CREATE TABLE and ALTER TABLE ... ADD COLUMN are supported, got: " ++ kind
  | noType column => "Column " ++ column ++ " has no data type"
  | keyPart => "Unsupported primary key part: not a column"

def OutlineError.kind : OutlineError → ErrorKind
  | dialect _ => .value
  | tokens _ => .token
  | unsupported _ => .unsupportedStatement
  | malformed | noType _ | keyPart => .parsing

/-- What statements are read with, and how their expressions become texts. -/
structure Engine extends Renderer where
  read : Dialect → List Char → Except OutlineError Statement

def readStatement (d : Dialect) (cs : List Char) : Except OutlineError Statement :=
  match Lexer.read d cs with
  | .error e => .error (.tokens e)
  | .ok ts =>
    match Statement.read? d ts with
    | some s => .ok s
    | none => .error .malformed

def Engine.standard : Engine where
  toRenderer := .standard
  read := readStatement

/-- An outline, and what ended it early if anything did. -/
structure PartialOutline where
  outline : Outline
  error : Option OutlineError := none

/-- The columns before the first one without a type, and the name of that one. -/
def definitions (r : Renderer) : List ColumnSpec → List (String × ColumnDefinition) × Option String
  | [] => ([], none)
  | c :: cs =>
    match c.definition? r with
    | some definition =>
      let (columns, missing) := definitions r cs
      ((c.name, definition) :: columns, missing)
    | none => ([], some c.name)

def KeyPart.name? : KeyPart → Option String
  | .column name => some name
  | .other => none

/-- The keys before the first one with a part that is no column, and whether there is such. -/
def keyNames : List (List KeyPart) → List (List String) × Bool
  | [] => ([], false)
  | parts :: others =>
    match parts.mapM KeyPart.name? with
    | some names =>
      let (keys, stopped) := keyNames others
      (names :: keys, stopped)
    | none => ([], true)

def outlineOf (r : Renderer) (id : TableId) (columns : List ColumnSpec)
    (keys : List (List KeyPart)) : PartialOutline :=
  match definitions r columns with
  | (columns, some name) => ⟨{ id, columns }, some (.noType name)⟩
  | (columns, none) =>
    let (keys, stopped) := keyNames keys
    ⟨{ id, columns, keys }, if stopped then some .keyPart else none⟩

namespace Item

def column? : Item → Option ColumnSpec
  | column c => some c
  | _ => none

/-- The primary key of an item without a name. -/
def key? : Item → Option (List KeyPart)
  | primaryKey parts => some parts
  | _ => none

def namedKeys : Item → List (List KeyPart)
  | named keys => keys
  | _ => []

/-- The primary keys inside the clauses of an item. -/
def innerKeys : Item → List (List KeyPart)
  | column c => c.clauses.filterMap fun clause =>
    match clause with
    | .tableKey parts => some parts
    | _ => none
  | _ => []

/-- All primary keys of some items: those without a name first, those inside columns last. -/
def keys (items : List Item) : List (List KeyPart) :=
  items.filterMap key? ++ items.flatMap namedKeys ++ items.flatMap innerKeys

end Item

def Statement.outline (r : Renderer) : Statement → Except OutlineError PartialOutline
  | createTable id items => .ok (outlineOf r id (items.filterMap Item.column?) (Item.keys items))
  | alterTable id columns => .ok (outlineOf r id columns [])
  | other kind => .error (.unsupported kind)

def outline (engine : Engine) (d : Dialect) (text : String) :
    Except OutlineError PartialOutline := do
  (← engine.read d (Source.rewrite text.toList)).outline engine.toRenderer

end TableSchema.Sql
