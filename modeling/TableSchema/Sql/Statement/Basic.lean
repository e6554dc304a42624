import TableSchema.Sql.Expression.Basic
import TableSchema.Table

/-!
Statements, as far as they tell of the columns and keys of a table. What tells nothing of them is
kept only as something that stands there.
-/

namespace TableSchema.Sql

/-- The name of a type: one that is known, or one of the type's own. -/
inductive TypeName where
  | known (name : String)
  | own (kind : Option String)
  deriving DecidableEq, Repr

inductive TypeParameter where
  | size (e : Expr)
  | value (e : Expr)
  deriving Repr

structure TypeSpec where
  name : TypeName
  parameters : List TypeParameter := []
  deriving Repr

inductive KeyPart where
  | column (name : String)
  | other
  deriving DecidableEq, Repr

inductive Clause where
  | null (notNull : Bool)
  | primaryKey
  /-- A primary key with a list of columns, which is a key of the table. -/
  | tableKey (parts : List KeyPart)
  | unique
  | autoIncrement
  | comment (e : Expr)
  | default (e : Expr)
  | charset (name : String)
  | collation (name : String)
  | check (e : Expr)
  /-- A clause that has no part in the definition of the column. -/
  | other
  deriving Repr

structure ColumnSpec where
  name : String
  type : Option TypeSpec := none
  clauses : List Clause := []
  deriving Repr

inductive Item where
  | column (c : ColumnSpec)
  | primaryKey (parts : List KeyPart)
  /-- Constraints under a name, with the primary keys among them. -/
  | named (keys : List (List KeyPart))
  | other
  deriving Repr

inductive Statement where
  | createTable (id : TableId) (items : List Item)
  /-- Columns that are added to a table. -/
  | alterTable (id : TableId) (columns : List ColumnSpec)
  /-- A statement of another kind. -/
  | other (kind : String)
  deriving Repr

end TableSchema.Sql
