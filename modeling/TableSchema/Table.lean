import TableSchema.Column
import TableSchema.ErrorKind
import TableSchema.Text.Casing

/-!
Tables in the making. Columns are known by name, without regard to letter case: a column that comes
again takes the place of the first. A primary key names columns that are there, and a key that does
not is refused and changes nothing.
-/

namespace TableSchema

structure TableId where
  table : String
  schema : Option String := none
  catalog : Option String := none
  deriving DecidableEq, Repr

/-- The parts of the name that are not empty, with dots between them. -/
def TableId.text (id : TableId) : String :=
  ".".intercalate
    (([id.catalog, id.schema, some id.table].filterMap fun part => part).filter (· ≠ ""))

def sameName (a b : String) : Bool := Text.lowerString a == Text.lowerString b

def findColumn? (columns : List Column) (name : String) : Option Column :=
  columns.find? fun c => sameName c.name name

structure MissingKeyColumn where
  name : String
  table : TableId
  deriving DecidableEq, Repr

def MissingKeyColumn.message (e : MissingKeyColumn) : String :=
  "Primary key column '" ++ e.name ++ "' is not a column of table '" ++ e.table.text ++ "'"

def MissingKeyColumn.kind (_ : MissingKeyColumn) : ErrorKind := .parsing

structure Table where
  id : TableId
  columns : List Column := []
  primaryKey : List String := []
  deriving DecidableEq, Repr

def Table.find? (t : Table) (name : String) : Option Column := findColumn? t.columns name

/-- A table to which columns and keys are still added. -/
structure TableDraft where
  id : TableId
  columns : List Column := []
  primaryKey : List String := []
  deriving DecidableEq, Repr

namespace TableDraft

def hasPrimaryKey (t : TableDraft) : Bool := !t.primaryKey.isEmpty

def find? (t : TableDraft) (name : String) : Option Column := findColumn? t.columns name

/-- Puts a column at the place of the one with its name, or at the end. `n` columns precede. -/
def placeColumn (column : Column) (n : Nat) : List Column → List Column
  | [] => [{ column with position := n + 1 }]
  | c :: cs =>
    if sameName c.name column.name then { column with position := n + 1 } :: cs
    else c :: placeColumn column (n + 1) cs

/-- Adds a column, or replaces the one with its name where it stands. -/
def add (t : TableDraft) (column : Column) : TableDraft :=
  { t with columns := placeColumn column 0 t.columns }

/-- Sets the primary key, as spelled, if all its names are names of columns. -/
def setKey (t : TableDraft) (names : List String) : Except MissingKeyColumn TableDraft :=
  match names.find? fun name => (t.find? name).isNone with
  | some name => .error ⟨name, t.id⟩
  | none => .ok { t with primaryKey := names }

/-- Makes a column that the names mention not null. -/
def requireValue (names : List String) (c : Column) : Column :=
  if names.any (sameName c.name ·) then { c with nullability := .notNull } else c

/-- Sets the primary key of the whole table. Its columns admit no null. -/
def setTableKey (t : TableDraft) (names : List String) : Except MissingKeyColumn TableDraft :=
  (t.setKey names).map fun t => { t with columns := t.columns.map (requireValue names) }

def finish (t : TableDraft) : Table := ⟨t.id, t.columns, t.primaryKey⟩

end TableDraft
end TableSchema
